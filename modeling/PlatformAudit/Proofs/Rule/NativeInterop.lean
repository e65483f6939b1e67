import PlatformAudit.Proofs.Detect.Attributes
import PlatformAudit.Proofs.Rule.Builtin

/-!
# Which calls into native libraries are reported

An attribute is reported if its name is one of a table and the first literal in it names
a library of another table. Every attribute that stands on something is looked at once:
the rule goes through the nodes in the order of the text and at each node through its
attributes, so an attribute is met where its parent is.

A library is named by what follows the last separator of a text, without white space
around it and without extension (`PlatformAudit.NativeInterop.NamesLibrary`). The rule finds the
name in four steps, whose order counts: the directory goes before the white space, and the white
space before the extension. That it finds the name is
`PlatformAudit.NativeInterop.NamesLibrary.libraryStem_eq`.

The main statement is `PlatformAudit.NativeInterop.reports_native_libraries`.
-/

namespace PlatformAudit.NativeInterop

open Text Code Detect

/-! ### Names of libraries -/

/-- The characters after which the name of a file begins. -/
def Separates (c : Char) : Prop :=
  c = '/' ∨ c = '\\'

/-- A text is the extension of a library, in any case of Latin letters. -/
def IsExtension (cs : List Char) : Prop :=
  cs.map asciiLower = ".dll".toList

/-- A name ends in the extension. -/
def HasExtension (name : List Char) : Prop :=
  ∃ front back, name = front ++ back ∧ IsExtension back

/-- **The name of a library in a text**: what follows the last separator, without white space
around it and without the extension, if there is one. -/
def NamesLibrary (text name : List Char) : Prop :=
  ∃ directory file, text = directory ++ file ∧ (∀ c ∈ directory.getLast?, Separates c) ∧
    (∀ c ∈ file, ¬Separates c) ∧
    (TrimsTo file name ∧ ¬HasExtension name ∨
      ∃ extension, IsExtension extension ∧ TrimsTo file (name ++ extension))

/-- **A text spells a library** if the name in it is that of the library, up to the case of
Latin letters. -/
def Spells (name text : List Char) : Prop :=
  ∃ written, NamesLibrary text written ∧ written.map asciiLower = name.map asciiLower

/-- What follows the last separator. -/
theorem afterLastOf_separator_eq_iff {text file : List Char} :
    afterLastOf (fun c => c = '/' || c = '\\') text = file ↔
      ∃ directory, text = directory ++ file ∧ (∀ c ∈ directory.getLast?, Separates c) ∧
        ∀ c ∈ file, ¬Separates c := by
  rw [afterLastOf_eq_iff]
  simp only [Bool.or_eq_true, decide_eq_true_eq, Bool.or_eq_false_iff, decide_eq_false_iff_not,
    Separates, not_or]

/-- What is left of a file without the extension. -/
theorem dropFinal?_extension {file front : List Char}
    (h : dropFinal? ".dll".toList (file.map asciiLower) = some front) :
    ∃ name extension, file = name ++ extension ∧ IsExtension extension ∧
      front = name.map asciiLower := by
  obtain ⟨name, extension, hfile, hname, hextension⟩ :=
    List.map_eq_append_iff.mp (dropFinal?_eq_some_iff.mp h)
  exact ⟨name, extension, hfile, hextension, hname.symm⟩

theorem dropFinal?_of_extension {name extension : List Char} (h : IsExtension extension) :
    dropFinal? ".dll".toList ((name ++ extension).map asciiLower) = some (name.map asciiLower) := by
  rw [List.map_append, h]
  exact dropFinal?_eq_some_iff.mpr rfl

theorem not_hasExtension_iff {name : List Char} :
    ¬HasExtension name ↔ dropFinal? ".dll".toList (name.map asciiLower) = none := by
  rw [Option.eq_none_iff_forall_ne_some]
  constructor
  · intro h front hfront
    obtain ⟨front, extension, hname, hextension, -⟩ := dropFinal?_extension hfront
    exact h ⟨front, extension, hname, hextension⟩
  · rintro h ⟨front, extension, rfl, hextension⟩
    exact h _ (dropFinal?_of_extension hextension)

/-- Every text names a library. -/
theorem exists_namesLibrary (text : List Char) :
    ∃ name, NamesLibrary text name ∧ libraryStem text = name.map asciiLower := by
  obtain ⟨directory, htext, hdirectory, hfile⟩ := afterLastOf_separator_eq_iff.mp
    (Eq.refl (afterLastOf (fun c => c = '/' || c = '\\') text))
  have htrims := trim_eq_iff.mp
    (Eq.refl (trim (afterLastOf (fun c => c = '/' || c = '\\') text)))
  rw [libraryStem]
  generalize trim (afterLastOf (fun c => c = '/' || c = '\\') text) = file at *
  cases hdrop : dropFinal? ".dll".toList (file.map asciiLower) with
  | none =>
    exact ⟨file, ⟨directory, _, htext, hdirectory, hfile,
      .inl ⟨htrims, not_hasExtension_iff.mpr hdrop⟩⟩, rfl⟩
  | some front =>
    obtain ⟨name, extension, rfl, hextension, rfl⟩ := dropFinal?_extension hdrop
    exact ⟨name, ⟨directory, _, htext, hdirectory, hfile,
      .inr ⟨extension, hextension, htrims⟩⟩, rfl⟩

/-- **The stem is the name of the library in small letters.** -/
theorem NamesLibrary.libraryStem_eq {text name : List Char} (h : NamesLibrary text name) :
    libraryStem text = name.map asciiLower := by
  obtain ⟨directory, file, htext, hdirectory, hfile, hname⟩ := h
  rw [libraryStem, afterLastOf_separator_eq_iff.mpr ⟨directory, htext, hdirectory, hfile⟩]
  rcases hname with ⟨htrims, hnone⟩ | ⟨extension, hextension, htrims⟩
  · rw [trim_eq_iff.mpr htrims, not_hasExtension_iff.mp hnone, Option.getD_none]
  · rw [trim_eq_iff.mpr htrims, dropFinal?_of_extension hextension, Option.getD_some]

/-- **A text spells a library if its stem is the name in small letters.** -/
theorem spells_iff {name text : List Char} :
    Spells name text ↔ libraryStem text = name.map asciiLower := by
  constructor
  · rintro ⟨written, hwritten, hsame⟩
    rw [hwritten.libraryStem_eq, hsame]
  · intro h
    obtain ⟨written, hwritten, hstem⟩ := exists_namesLibrary text
    exact ⟨written, hwritten, hstem.symm.trans h⟩

/-- The stem of a text does not depend on the case of letters. -/
theorem libraryStem_map_asciiLower (text : List Char) :
    libraryStem (text.map asciiLower) = libraryStem text := by
  have hseparates (c : Char) : (decide (asciiLower c = '/') || decide (asciiLower c = '\\')) =
      (decide (c = '/') || decide (c = '\\')) := by
    rw [decide_eq_decide.mpr (asciiLower_eq_iff (by decide)),
      decide_eq_decide.mpr (asciiLower_eq_iff (by decide))]
  rw [libraryStem, libraryStem, afterLastOf_map_asciiLower hseparates, trim_map_asciiLower,
    map_asciiLower_map_asciiLower]

/-- The name of a library alone: no separator, no surrounding white space, no extension. -/
structure IsPlain (name : List Char) : Prop where
  noSeparator : ∀ c ∈ name, ¬Separates c
  unpadded : Unpadded name
  noExtension : ¬HasExtension name

namespace IsPlain

variable {name : List Char}

/-- Whether a name is plain can be computed. -/
theorem iff_computed : IsPlain name ↔
    name.all (fun c => c ≠ '/' && c ≠ '\\') = true ∧ trim name = name ∧
      dropFinal? ".dll".toList (name.map asciiLower) = none := by
  rw [← not_hasExtension_iff, trim_eq_iff, List.all_eq_true]
  simp only [Bool.and_eq_true, decide_eq_true_eq]
  constructor
  · intro h
    exact ⟨fun c hc => not_or.mp (h.noSeparator c hc), h.unpadded.trimsTo_self, h.noExtension⟩
  · rintro ⟨hseparator, ⟨-, -, -, -, -, hunpadded⟩, hextension⟩
    exact ⟨fun c hc => not_or.mpr (hseparator c hc), hunpadded, hextension⟩

instance : DecidablePred IsPlain :=
  fun _ => decidable_of_iff _ iff_computed.symm

theorem unpadded_extension (h : IsPlain name) : Unpadded (name ++ ".dll".toList) := by
  refine ⟨fun c hc => ?_, fun c hc => ?_⟩
  · cases name with
    | nil =>
      obtain rfl := Option.some.inj hc
      decide
    | cons d ds => exact h.unpadded.1 c hc
  · rw [List.getLast?_append_of_ne_nil _ (by decide)] at hc
    obtain rfl := Option.some.inj hc
    decide

/-- A directory before a name is no part of it. -/
theorem namesLibrary (h : IsPlain name) (directory : List Char)
    (hdirectory : ∀ c ∈ directory.getLast?, Separates c) :
    NamesLibrary (directory ++ name) name :=
  ⟨directory, name, rfl, hdirectory, h.noSeparator,
    .inl ⟨h.unpadded.trimsTo_self, h.noExtension⟩⟩

/-- An extension behind a name is no part of it. -/
theorem namesLibrary_extension (h : IsPlain name) (directory : List Char)
    (hdirectory : ∀ c ∈ directory.getLast?, Separates c) :
    NamesLibrary (directory ++ (name ++ ".dll".toList)) name := by
  refine ⟨directory, _, rfl, hdirectory, fun c hc => ?_,
    .inr ⟨".dll".toList, rfl, h.unpadded_extension.trimsTo_self⟩⟩
  rcases List.mem_append.mp hc with hc | hc
  · exact h.noSeparator c hc
  · have hletters : ∀ c ∈ ".dll".toList, ¬Separates c := by simp [Separates]
    exact hletters c hc

end IsPlain

/-- The spellings of a library: its name, perhaps with the extension, perhaps in a directory. -/
def spellings (name directory : String) : List String :=
  [name, name ++ ".dll", directory ++ "/" ++ name ++ ".dll", directory ++ "\\" ++ name]

/-- **A spelling of a plain name spells it**, in any case of Latin letters. -/
theorem IsPlain.spells {name directory form literal : String} (h : IsPlain name.toList)
    (hform : form ∈ spellings name directory)
    (hsame : literal.toList.map asciiLower = form.toList.map asciiLower) :
    Spells name.toList literal.toList := by
  have hnames : NamesLibrary form.toList name.toList := by
    simp only [spellings, List.mem_cons, List.not_mem_nil, or_false] at hform
    rcases hform with rfl | rfl | rfl | rfl
    · exact h.namesLibrary [] (by simp)
    · rw [String.toList_append]
      exact h.namesLibrary_extension [] (by simp)
    · rw [String.toList_append, String.toList_append, String.toList_append, List.append_assoc]
      exact h.namesLibrary_extension _ (by simp [Separates])
    · rw [String.toList_append, String.toList_append]
      exact h.namesLibrary _ (by simp [Separates])
  rw [spells_iff, ← libraryStem_map_asciiLower, hsame, libraryStem_map_asciiLower,
    hnames.libraryStem_eq]

/-- **A literal is accepted** if an entry of the table spells the library that it names. -/
def Accepted (libraries : List String) (literal : String) : Prop :=
  ∃ name, NamesLibrary literal.toList name ∧ ∃ l ∈ libraries, Spells name l.toList

/-- What is accepted of the texts that spell a library. -/
theorem accepted_iff_of_spells {libraries : List String} {name : List Char} {literal : String}
    (h : Spells name literal.toList) :
    Accepted libraries literal ↔ ∃ l ∈ libraries, Spells name l.toList := by
  obtain ⟨written, hwritten, hsame⟩ := h
  constructor
  · rintro ⟨name', hname', l, hl, hspells⟩
    refine ⟨l, hl, spells_iff.mpr ?_⟩
    rw [spells_iff.mp hspells, ← hname'.libraryStem_eq, hwritten.libraryStem_eq, hsame]
  · rintro ⟨l, hl, hspells⟩
    refine ⟨written, hwritten, l, hl, spells_iff.mpr ?_⟩
    rw [spells_iff.mp hspells, hsame]

theorem isListed_iff {libraries : List String} {literal : String} :
    isListed libraries literal = true ↔ Accepted libraries literal := by
  obtain ⟨name, hname, hstem⟩ := exists_namesLibrary literal.toList
  rw [accepted_iff_of_spells ⟨name, hname, rfl⟩]
  simp only [isListed, List.any_eq_true, decide_eq_true_eq, spells_iff, hstem]

/-! ### Attributes -/

/-- The name of an attribute means an entry of a table. -/
def RefersTo (attributes : List String) (attr : Node) : Prop :=
  ∃ name ∈ attributes, SameAttribute name attr.label

/-- The first literal at or below a node, in the order of the text. -/
def FirstLiteral (attr : Node) (literal : String) : Prop :=
  ∃ earlier n later, attr.preorder = earlier ++ n :: later ∧ n.kind = .stringLiteral ∧
    n.label = literal ∧ ∀ m ∈ earlier, m.kind ≠ .stringLiteral

theorem libraryOf?_eq_some_iff {attr : Node} {literal : String} :
    libraryOf? attr = some literal ↔ FirstLiteral attr literal := by
  rw [libraryOf?, Node.descendants_eq, Option.map_eq_some_iff]
  simp only [List.find?_eq_some_iff_append, decide_eq_true_eq, Bool.not_eq_true',
    decide_eq_false_iff_not]
  constructor
  · rintro ⟨n, ⟨hkind, earlier, later, hsplit, hearlier⟩, hlabel⟩
    exact ⟨earlier, n, later, hsplit, hkind, hlabel, hearlier⟩
  · rintro ⟨earlier, n, later, hsplit, hkind, hlabel, hearlier⟩
    exact ⟨n, ⟨hkind, earlier, later, hsplit, hearlier⟩, hlabel⟩

/-- **An attribute binds what it stands on to a native library** of the tables. -/
def Binds (attributes libraries : List String) (attr : Node) (literal : String) : Prop :=
  attr.kind = .attributeUse ∧ RefersTo attributes attr ∧ FirstLiteral attr literal ∧
    Accepted libraries literal

/-- The finding of an attribute that binds its owner to a library. -/
def bindingFinding (file : String) (owner attr : Node) (library : String) : Finding :=
  info.finding file attr.line
    ("P/Invoke '" ++ (if owner.label.isEmpty then "<unnamed>" else owner.label) ++
      "' is bound to Windows library \"" ++ library ++ "\"")
    ("Replace the call into " ++ library ++ " with a managed API, or move it behind an " ++
      "interface with per-platform implementations.")

theorem isSome_attributeNamed?_iff {attributes : List String} {attr : Node} :
    (attributeNamed? attr.label attributes).isSome = true ↔ RefersTo attributes attr := by
  rw [RefersTo, ← exists_isFirstNamed_iff, Option.isSome_iff_exists]
  simp only [attributeNamed?_eq_some_iff]

theorem finding?_eq_some_iff {attributes libraries : List String} {file : String}
    {owner attr : Node} {f : Finding} :
    finding? attributes libraries file owner attr = some f ↔
      RefersTo attributes attr ∧ ∃ literal, FirstLiteral attr literal ∧
        Accepted libraries literal ∧ f = bindingFinding file owner attr literal := by
  rw [← isSome_attributeNamed?_iff, Option.isSome_iff_exists, finding?]
  simp only [← libraryOf?_eq_some_iff, ← isListed_iff]
  constructor
  · intro h
    obtain ⟨name, hname, h⟩ := Option.bind_eq_some_iff.mp h
    obtain ⟨literal, hliteral, h⟩ := Option.bind_eq_some_iff.mp h
    refine ⟨⟨name, hname⟩, literal, hliteral, ?_⟩
    cases hlisted : isListed libraries literal with
    | false =>
      rw [hlisted] at h
      cases h
    | true =>
      rw [hlisted] at h
      cases h
      exact ⟨rfl, rfl⟩
  · rintro ⟨⟨name, hname⟩, literal, hliteral, hlisted, rfl⟩
    rw [hname, hliteral]
    refine Option.bind_eq_some_iff.mpr ⟨name, rfl, Option.bind_eq_some_iff.mpr ⟨literal, rfl, ?_⟩⟩
    rw [hlisted]
    rfl

/-- What the rule makes of a node and one of its children. -/
def findingAt? (attributes libraries : List String) (file : String) (pair : Node × Node) :
    Option Finding :=
  if pair.2.kind = .attributeUse then finding? attributes libraries file pair.1 pair.2 else none

theorem findings_eq (attributes libraries : List String) (u : LoadedUnit) :
    findings attributes libraries u =
      u.unit.root.withChildren.filterMap (findingAt? attributes libraries u.unit.path) := by
  rw [findings, attributesIn_eq, List.filterMap_filter]
  refine congrArg (List.filterMap · u.unit.root.withChildren) (funext fun pair => ?_)
  simp only [findingAt?, decide_eq_true_eq]

theorem findingAt?_eq_some_iff {attributes libraries : List String} {file : String}
    {owner attr : Node} {f : Finding} :
    findingAt? attributes libraries file (owner, attr) = some f ↔
      ∃ literal, Binds attributes libraries attr literal ∧
        f = bindingFinding file owner attr literal := by
  rw [findingAt?, Option.ite_none_right_eq_some, finding?_eq_some_iff]
  constructor
  · rintro ⟨hkind, hrefers, literal, hfirst, haccepted, hf⟩
    exact ⟨literal, ⟨hkind, hrefers, hfirst, haccepted⟩, hf⟩
  · rintro ⟨literal, ⟨hkind, hrefers, hfirst, haccepted⟩, hf⟩
    exact ⟨hkind, hrefers, literal, hfirst, haccepted, hf⟩

/-- **The rule reports exactly the attributes that bind to a native library**, however the library
is spelled. It reports of a model what it finds in its units, one after the other.

* In a unit there is one finding for each attribute that stands on a node and binds it to a
  library of the tables, in the order of the places of those nodes and, on one node, in the
  order of its children. No attribute is reported twice.
* The name of a library alone may be written with or without the extension, in any directory and
  in any case of letters. All these literals are accepted if an entry of the table spells the
  library, and none of them otherwise. -/
theorem reports_native_libraries (attributes libraries : List String) :
    (∀ model, (rule attributes libraries).analyze model false =
      (.done { findings := model.units.flatMap (findings attributes libraries) }, false)) ∧
    (∀ u : LoadedUnit, ∃ places : List (List ℕ × ℕ),
      places.Pairwise (Prod.Lex (· < ·) (· < ·)) ∧
      (∀ p i, (p, i) ∈ places ↔ ∃ attr literal, u.unit.root.at? (p ++ [i]) = some attr ∧
        Binds attributes libraries attr literal) ∧
      List.Forall₂ (fun k f => ∃ owner attr literal, u.unit.root.at? k.1 = some owner ∧
          u.unit.root.at? (k.1 ++ [k.2]) = some attr ∧ Binds attributes libraries attr literal ∧
          f = bindingFinding u.unit.path owner attr literal)
        places (findings attributes libraries u)) ∧
    ∀ name directory form literal : String, IsPlain name.toList →
      form ∈ spellings name directory →
      literal.toList.map asciiLower = form.toList.map asciiLower →
      (Accepted libraries literal ↔ ∃ l ∈ libraries, Spells name.toList l.toList) := by
  refine ⟨fun model => scanUnits_of_quiet _ _, fun u => ?_,
    fun name directory form literal hname hform hsame =>
      accepted_iff_of_spells (hname.spells hform hsame)⟩
  · obtain ⟨keys, hchildren⟩ := u.unit.root.listedBy_children
    have hlisted := hchildren.filterMap (findingAt? attributes libraries u.unit.path)
    rw [findings_eq]
    refine ⟨_, hlisted.inOrder, fun p i => ?_, hlisted.forall₂.imp fun k f hf => ?_⟩
    · rw [hlisted.mem_iff]
      constructor
      · rintro ⟨f, hf⟩
        obtain ⟨⟨owner, attr⟩, hpair, hf⟩ := Option.bind_eq_some_iff.mp hf
        obtain ⟨literal, hbinds, -⟩ := findingAt?_eq_some_iff.mp hf
        exact ⟨attr, literal, (Node.childAt?_eq_some_iff.mp hpair).2, hbinds⟩
      · rintro ⟨attr, literal, hattr, hbinds⟩
        obtain ⟨owner, howner, -⟩ := Option.bind_eq_some_iff.mp (Node.at?_concat .. ▸ hattr)
        refine ⟨bindingFinding u.unit.path owner attr literal,
          Option.bind_eq_some_iff.mpr ⟨(owner, attr), ?_, ?_⟩⟩
        · exact Node.childAt?_eq_some_iff.mpr ⟨howner, hattr⟩
        · exact findingAt?_eq_some_iff.mpr ⟨literal, hbinds, rfl⟩
    · obtain ⟨⟨owner, attr⟩, hpair, hf⟩ := Option.bind_eq_some_iff.mp hf
      obtain ⟨literal, hbinds, rfl⟩ := findingAt?_eq_some_iff.mp hf
      obtain ⟨howner, hattr⟩ := Node.childAt?_eq_some_iff.mp hpair
      exact ⟨owner, attr, literal, howner, hattr, hbinds, rfl⟩

/-- A unit with two methods, each bound to a library. -/
def interopUnit : LoadedUnit where
  unit :=
    { path := "a.cs"
      root :=
        { kind := .compilationUnit
          line := 1
          children :=
            [{ kind := .methodDecl, text := some "GetTickCount", line := 3
               children :=
                 [{ kind := .attributeUse, text := some "DllImportAttribute", line := 2
                    children :=
                      [{ kind := .stringLiteral, line := 2
                         text := some "C:\\Windows\\System32\\KERNEL32.DLL" }] }] },
              { kind := .methodDecl, text := some "getpid", line := 5
                children :=
                  [{ kind := .attributeUse, text := some "DllImport", line := 4
                     children :=
                       [{ kind := .stringLiteral, text := some "libc", line := 4 }] }] }] } }

/-- Of two libraries the one in the table is reported, in whatever directory it is. -/
theorem reports_native_libraries_kernel32 :
    (findings ["DllImport"] ["user32", "Kernel32.dll"] interopUnit).map
        (fun f => (f.line, f.message)) =
      [(2, "P/Invoke 'GetTickCount' is bound to Windows library " ++
        "\"C:\\Windows\\System32\\KERNEL32.DLL\"")] ∧
    IsPlain "kernel32".toList ∧ IsPlain "libc".toList ∧
    Accepted ["user32", "Kernel32.dll"] "C:\\Windows\\System32/KERNEL32.DLL" ∧
    Accepted ["user32", "Kernel32.dll"] "C:\\Windows\\System32\\Kernel32" ∧
    ¬Accepted ["user32", "Kernel32.dll"] "/usr/lib\\LibC" := by
  obtain ⟨-, -, haccepted⟩ := reports_native_libraries ["DllImport"] ["user32", "Kernel32.dll"]
  have hlisted : ∃ l ∈ ["user32", "Kernel32.dll"], Spells "kernel32".toList l.toList :=
    ⟨"Kernel32.dll", by decide, spells_iff.mpr (by decide)⟩
  have hkernel32 : IsPlain "kernel32".toList := by decide
  have hlibc : IsPlain "libc".toList := by decide
  refine ⟨by decide +kernel, hkernel32, hlibc, ?_, ?_, ?_⟩
  · exact (haccepted "kernel32" "C:\\Windows\\System32" "C:\\Windows\\System32/kernel32.dll" _
      hkernel32 (by decide) (by decide)).mpr hlisted
  · exact (haccepted "kernel32" "C:\\Windows\\System32" "C:\\Windows\\System32\\kernel32" _
      hkernel32 (by decide) (by decide)).mpr hlisted
  · rw [haccepted "libc" "/usr/lib" "/usr/lib\\libc" _ hlibc (by decide) (by decide)]
    simp only [spells_iff]
    decide

end PlatformAudit.NativeInterop
