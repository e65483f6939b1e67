import PlatformAudit.Detect.Types
import PlatformAudit.Proofs.Detect.Attributes
import PlatformAudit.Proofs.Detect.Namespaces
import PlatformAudit.Proofs.Detect.Outermost

/-!
# References to namespaces and to types

Two detectors pass over what lies below a hit: the one for namespaces and the one for
types. When a node refers to a namespace or to a type is said here by how its text is put
together and by what its symbol is (`PlatformAudit.Detect.RefersToNamespace`,
`PlatformAudit.Detect.RefersToType`), and the functions that take the texts apart are shown to
come to the same (`PlatformAudit.Detect.importedPath_eq_iff`,
`PlatformAudit.Detect.isSpelled_iff`). What the detectors report are then the outermost
references, each with the first entry of the table that fits
(`PlatformAudit.Detect.outermost_references_reported`).

That nothing is reported below a hit is meant for the parts of a name, which are the
same reference once more. But an object is created from arguments, and a member is
taken of an expression, and these may refer to types of their own. They are lost if the
whole refers to a type too: `PlatformAudit.Detect.type_reported_iff` says which types are
reported, and `PlatformAudit.Detect.type_lost_below_another` that one may be lost.
-/

namespace PlatformAudit.Detect

open Text Code

/-! ### Namespaces -/

/-- **The path that an import names**: what follows the last equals sign, without white space around
it. If this begins with the word `static` and a space, the path is what follows, again without
white space around it. -/
def IsImportedPath (text path : List Char) : Prop :=
  ∃ before target, text = before ++ target ∧ (∀ c ∈ before.getLast?, c = '=') ∧ '=' ∉ target ∧
    (TrimsTo target path ∧ ¬"static ".toList <+: path ∨
      ∃ named, TrimsTo target ("static ".toList ++ named) ∧ TrimsTo named path)

theorem importedPath_eq (text : List Char) :
    importedPath text =
      trim ((dropStart? "static ".toList (trim (afterLast '=' text))).getD
        (trim (afterLast '=' text))) := by
  rw [importedPath, trim_afterLast_trim (by decide)]

/-- **The imported path is what the cuts leave of the text of an import.** -/
theorem importedPath_eq_iff {text path : List Char} :
    importedPath text = path ↔ IsImportedPath text path := by
  have htarget {before target : List Char} (htext : text = before ++ target)
      (hbefore : ∀ c ∈ before.getLast?, c = '=') (hfree : '=' ∉ target) :
      afterLast '=' text = target := by
    refine afterLastOf_eq_iff.mpr ⟨before, htext, fun c hc => ?_, fun c hc => ?_⟩
    · simpa using hbefore c hc
    · simpa using ne_of_mem_of_not_mem hc hfree
  rw [importedPath_eq]
  constructor
  · intro h
    obtain ⟨before, htext, hbefore, hfree⟩ :=
      afterLastOf_eq_iff.mp (Eq.refl (afterLast '=' text))
    refine ⟨before, afterLast '=' text, htext, by simpa using hbefore,
      fun hmem => by simpa using hfree '=' hmem, ?_⟩
    cases hdrop : dropStart? "static ".toList (trim (afterLast '=' text)) with
    | none =>
      rw [hdrop, Option.getD_none, trim_trim] at h
      refine .inl ⟨trim_eq_iff.mp h, ?_⟩
      rintro ⟨named, hnamed⟩
      rw [dropStart?_eq_some_iff.mpr (h.trans hnamed.symm)] at hdrop
      cases hdrop
    | some named =>
      rw [hdrop, Option.getD_some] at h
      exact .inr ⟨named, trim_eq_iff.mp (dropStart?_eq_some_iff.mp hdrop), trim_eq_iff.mp h⟩
  · rintro ⟨before, target, htext, hbefore, hfree, ⟨hpath, hstatic⟩ | ⟨named, hnamed, hpath⟩⟩
    · rw [htarget htext hbefore hfree, trim_eq_iff.mpr hpath]
      have hdrop : dropStart? "static ".toList path = none := by
        refine Option.eq_none_iff_forall_ne_some.mpr fun named hnamed => hstatic ?_
        exact ⟨named, (dropStart?_eq_some_iff.mp hnamed).symm⟩
      rw [hdrop, Option.getD_none, ← trim_eq_iff.mpr hpath, trim_trim]
    · rw [htarget htext hbefore hfree, trim_eq_iff.mpr hnamed, dropStart?_eq_some_iff.mpr rfl,
        Option.getD_some, trim_eq_iff.mpr hpath]

/-- The path by which a node can refer to a namespace: what an import names, or the text of a
qualified name without white space around it. -/
def NamesPath (n : Node) (path : List Char) : Prop :=
  n.kind = .importDecl ∧ IsImportedPath n.label.toList path ∨
    n.kind = .qualifiedName ∧ TrimsTo n.label.toList path

/-- **A node refers to a namespace** if it names a path in which the segments of the namespace come
first. -/
def RefersToNamespace (name : String) (n : Node) : Prop :=
  ∃ path, NamesPath n path ∧ BeginsWithSegments path name.toList

theorem namespacePath?_eq_some_iff {n : Node} {path : List Char} :
    namespacePath? n = some path ↔ NamesPath n path := by
  rw [namespacePath?, NamesPath, ← importedPath_eq_iff, ← trim_eq_iff]
  split
  next hkind => simp [hkind]
  next hkind => simp [hkind]
  next himport hname =>
    refine iff_of_false (Option.some_ne_none path).symm ?_
    rintro (⟨hkind, -⟩ | ⟨hkind, -⟩)
    · exact himport hkind
    · exact hname hkind

/-- Paths have no white space around them. -/
theorem NamesPath.trim_eq {n : Node} {path : List Char} (h : NamesPath n path) :
    trim path = path := by
  rcases h with ⟨-, himport⟩ | ⟨-, htrims⟩
  · rw [← importedPath_eq_iff.mpr himport, importedPath_eq, trim_trim]
  · rw [← trim_eq_iff.mpr htrims, trim_trim]

/-- What a node refers to by the path that it names. -/
theorem NamesPath.refersToNamespace_iff {n : Node} {path : List Char} (h : NamesPath n path)
    {name : String} : RefersToNamespace name n ↔ liesIn path name.toList = true := by
  rw [liesIn_iff, h.trim_eq]
  constructor
  · rintro ⟨path', hpath', hbegins⟩
    have hsame := (namespacePath?_eq_some_iff.mpr h).symm.trans
      (namespacePath?_eq_some_iff.mpr hpath')
    rwa [Option.some.inj hsame]
  · exact fun hbegins => ⟨path, h, hbegins⟩

/-- The hit of a node for a namespace names its path. -/
def IsNamespaceHit (n : Node) (name : String) (hit : Hit) : Prop :=
  ∃ path, NamesPath n path ∧
    hit = { line := n.line, subject := String.ofList path, evidence := name }

/-- **The detector reports a node for the first namespace that it refers to.** -/
theorem namespaceHit?_eq_some_iff {namespaces : List String} {n : Node} {hit : Hit} :
    namespaceHit? namespaces n = some hit ↔
      ∃ name, FirstFit (RefersToNamespace · n) namespaces name ∧ IsNamespaceHit n name hit := by
  constructor
  · intro h
    obtain ⟨path, hpath, h⟩ := Option.bind_eq_some_iff.mp h
    obtain ⟨name, hname, h⟩ := Option.bind_eq_some_iff.mp h
    rw [namespacePath?_eq_some_iff] at hpath
    refine ⟨name, ?_, path, hpath, (Option.some.inj h).symm⟩
    simpa only [hpath.refersToNamespace_iff] using find?_eq_some_iff_firstFit.mp hname
  · rintro ⟨name, hname, path, hpath, rfl⟩
    simp only [hpath.refersToNamespace_iff] at hname
    refine Option.bind_eq_some_iff.mpr ⟨path, namespacePath?_eq_some_iff.mpr hpath, ?_⟩
    exact Option.bind_eq_some_iff.mpr ⟨name, find?_eq_some_iff_firstFit.mpr hname, rfl⟩

theorem exists_isNamespaceHit {n : Node} {name : String} (h : RefersToNamespace name n) :
    ∃ hit, IsNamespaceHit n name hit := by
  obtain ⟨path, hpath, -⟩ := h
  exact ⟨_, path, hpath, rfl⟩

/-! ### Types -/

/-- A symbol is a type if it has its name and, up to the case of Latin letters, its namespace. -/
def IsSymbolOf (s : Symbol) (t : TypeRef) : Prop :=
  t.name = s.declaredType ∧
    t.containing.toList.map asciiLower = s.containingNamespace.toList.map asciiLower

theorem isSymbol_iff_isSymbolOf {t : TypeRef} {s : Symbol} :
    t.isSymbol s = true ↔ IsSymbolOf s t := by
  rw [TypeRef.isSymbol, Bool.and_eq_true, decide_eq_true_iff, sameIgnoringCase_iff, IsSymbolOf]

/-- One of the segments of a path, without white space around it, is a name. The path ends where
type arguments begin. -/
def HasSegment (text name : List Char) : Prop :=
  ∃ path arguments, text = path ++ arguments ∧ '<' ∉ path ∧ (∀ c ∈ arguments.head?, c = '<') ∧
    ∃ part ∈ path.splitOn '.', TrimsTo part name

theorem any_segments_iff {text name : List Char} :
    ((segments '.' (beforeFirst '<' text)).any fun part => trim part = name) = true ↔
      HasSegment text name := by
  simp only [List.any_eq_true, decide_eq_true_eq, segments_eq, trim_eq_iff]
  constructor
  · rintro ⟨part, hpart, hname⟩
    obtain ⟨arguments, htext, hpath, harguments⟩ :=
      takeWhile_eq_iff.mp (Eq.refl (beforeFirst '<' text))
    refine ⟨beforeFirst '<' text, arguments, htext, fun hmem => by simpa using hpath '<' hmem,
      by simpa using harguments, part, hpart, hname⟩
  · rintro ⟨path, arguments, htext, hpath, harguments, part, hpart, hname⟩
    have hcut : beforeFirst '<' text = path := by
      refine takeWhile_eq_iff.mpr ⟨arguments, htext, fun c hc => ?_, fun c hc => ?_⟩
      · simpa using ne_of_mem_of_not_mem hc hpath
      · simpa using harguments c hc
    exact ⟨part, hcut ▸ hpart, hname⟩

/-- **A node is spelled like a type**: the simple name in an identifier or in the name of a created
object is the name of the type, or one of the segments of a longer path is. -/
def SpelledLike (n : Node) (t : TypeRef) : Prop :=
  ∃ text, TrimsTo n.label.toList text ∧
    ((n.kind = .identifier ∨ n.kind = .objectCreation) ∧ IsSimpleName text t.name.toList ∨
      (n.kind = .qualifiedName ∨ n.kind = .memberAccess) ∧ HasSegment text t.name.toList)

theorem mayReferToType_iff {kind : Kind} :
    mayReferToType kind = true ↔
      kind ∈ [.identifier, .qualifiedName, .objectCreation, .memberAccess] := by
  cases kind <;> decide

theorem isSpelled_iff {t : TypeRef} {n : Node}
    (hkind : n.kind ∈ [.identifier, .qualifiedName, .objectCreation, .memberAccess]) :
    t.isSpelled n = true ↔ SpelledLike n t := by
  simp only [TypeRef.isSpelled, SpelledLike, ← trim_eq_iff, exists_eq_left', ← simpleName_eq_iff,
    ← any_segments_iff, @eq_comm _ t.name.toList]
  simp only [List.mem_cons, List.not_mem_nil, or_false] at hkind
  rcases hkind with hkind | hkind | hkind | hkind <;> simp [hkind]

/-- **A node refers to a type** if it is of a kind that can, and either its symbol is the type, or it
has no symbol and is spelled like the type. -/
def RefersToType (resolver : Option Resolver) (t : TypeRef) (n : Node) : Prop :=
  n.kind ∈ [.identifier, .qualifiedName, .objectCreation, .memberAccess] ∧
    ((∃ r s, resolver = some r ∧ r.resolve n = some s ∧ IsSymbolOf s t) ∨
      ((∀ r, resolver = some r → r.resolve n = none) ∧ SpelledLike n t))

theorem refersToType_iff_isMeantBy {resolver : Option Resolver} {t : TypeRef} {n : Node}
    (hkind : mayReferToType n.kind = true) :
    RefersToType resolver t n ↔ t.isMeantBy resolver n = true := by
  rw [mayReferToType_iff] at hkind
  rw [RefersToType, and_iff_right hkind, ← isSpelled_iff hkind, TypeRef.isMeantBy]
  cases resolver with
  | none => simp
  | some r => cases hsymbol : r.resolve n <;> simp [hsymbol, isSymbol_iff_isSymbolOf]

/-- The hit of a node for a type names its text, without white space around it. -/
def IsTypeHit (n : Node) (t : TypeRef) (hit : Hit) : Prop :=
  ∃ text, TrimsTo n.label.toList text ∧
    hit = { line := n.line, subject := String.ofList text, evidence := t.fullName }

theorem isTypeHit_iff {n : Node} {t : TypeRef} {hit : Hit} :
    IsTypeHit n t hit ↔ hit = { line := n.line, subject := String.ofList (trim n.label.toList)
                                evidence := t.fullName } := by
  simp only [IsTypeHit, ← trim_eq_iff, exists_eq_left']

/-- **The detector reports a node for the first type that it refers to.** -/
theorem typeHit?_eq_some_iff {types : List TypeRef} {resolver : Option Resolver} {n : Node}
    {hit : Hit} :
    typeHit? types resolver n = some hit ↔
      ∃ t, FirstFit (RefersToType resolver · n) types t ∧ IsTypeHit n t hit := by
  rw [typeHit?]
  by_cases hkind : mayReferToType n.kind = true
  · rw [if_pos hkind, Option.map_eq_some_iff]
    simp only [find?_eq_some_iff_firstFit, refersToType_iff_isMeantBy hkind, isTypeHit_iff]
    exact exists_congr fun t => and_congr_right' eq_comm
  · rw [if_neg hkind]
    refine iff_of_false (Option.some_ne_none hit).symm ?_
    rintro ⟨t, ht, -⟩
    exact hkind (mayReferToType_iff.mpr ht.1.1)

theorem exists_isTypeHit (n : Node) (t : TypeRef) : ∃ hit, IsTypeHit n t hit :=
  ⟨_, isTypeHit_iff.mpr rfl⟩

/-- What the detector for types reports in a tree. -/
theorem reportsOutermost_types (types : List TypeRef) (resolver : Option Resolver) (root : Node) :
    ReportsOutermost types (RefersToType resolver) IsTypeHit root
      (collect (typeHit? types resolver) root)
      (outermostPlaces (fun n => ∃ t ∈ types, RefersToType resolver t n) root) :=
  reportsOutermost_collect (fun _ _ => typeHit?_eq_some_iff) (fun n t _ => exists_isTypeHit n t)
    root

/-- **The outermost references are reported.** In every unit the references to namespaces and the
references to types are reported in the order of the text, one for each node that refers to an
entry of the table and has no such node above it, at the line of that node and with the first
entry that it refers to. -/
theorem outermost_references_reported (namespaces : List String) (types : List TypeRef)
    (u : LoadedUnit) :
    (∃ places, ReportsOutermost namespaces RefersToNamespace IsNamespaceHit u.unit.root
      (namespaceHits namespaces u) places) ∧
    ∃ places, ReportsOutermost types (RefersToType u.resolver) IsTypeHit u.unit.root
      (typeHits types u) places :=
  ⟨⟨_, reportsOutermost_collect (fun _ _ => namespaceHit?_eq_some_iff)
      (fun _ _ => exists_isNamespaceHit) u.unit.root⟩,
    ⟨_, reportsOutermost_types types u.resolver u.unit.root⟩⟩

/-- Two types to look for. -/
def watchedTypes : List TypeRef :=
  [{ containing := "Microsoft.Win32", name := "Registry" },
    { containing := "System.Diagnostics", name := "EventLog" }]

/-- A unit with imports, one of them under another name and one of the members of a type, and with
longer names. -/
def importingUnit : LoadedUnit where
  unit :=
    { path := "a.cs"
      root :=
        { kind := .compilationUnit
          line := 1
          children :=
            [{ kind := .importDecl, text := some "Ui = System.Web.UI ", line := 2
               children := [{ kind := .qualifiedName, text := some "System.Web.UI", line := 2 }] },
              { kind := .importDecl, text := some "static  system.web.HttpUtility", line := 3 },
              { kind := .importDecl, text := some "System.Website", line := 4 },
              { kind := .memberAccess, text := some "Registry.LocalMachine", line := 7
                children := [{ kind := .identifier, text := some "Registry", line := 7 }] },
              { kind := .identifier, text := some "Logs.EventLog<Entry>", line := 8
                children :=
                  [{ kind := .qualifiedName, text := some "System.Web.Mail", line := 9 }] }] } }

/-- An alias and the word `static` are no part of a path, and a segment counts as a whole. The parts
of a name are not reported again. -/
theorem outermost_references_reported_imports :
    (namespaceHits ["System.Windows", "System.Web"] importingUnit =
        [{ line := 2, subject := "System.Web.UI", evidence := "System.Web" },
          { line := 3, subject := "system.web.HttpUtility", evidence := "System.Web" },
          { line := 9, subject := "System.Web.Mail", evidence := "System.Web" }] ∧
      typeHits watchedTypes importingUnit =
        [{ line := 7, subject := "Registry.LocalMachine", evidence := "Microsoft.Win32.Registry" },
          { line := 8, subject := "Logs.EventLog<Entry>"
            evidence := "System.Diagnostics.EventLog" }]) ∧
    ∃ places, ReportsOutermost ["System.Windows", "System.Web"] RefersToNamespace IsNamespaceHit
      importingUnit.unit.root (namespaceHits ["System.Windows", "System.Web"] importingUnit)
      places ∧ places.length = 3 := by
  have hhits : namespaceHits ["System.Windows", "System.Web"] importingUnit =
        [{ line := 2, subject := "System.Web.UI", evidence := "System.Web" },
          { line := 3, subject := "system.web.HttpUtility", evidence := "System.Web" },
          { line := 9, subject := "System.Web.Mail", evidence := "System.Web" }] ∧
      typeHits watchedTypes importingUnit =
        [{ line := 7, subject := "Registry.LocalMachine", evidence := "Microsoft.Win32.Registry" },
          { line := 8, subject := "Logs.EventLog<Entry>"
            evidence := "System.Diagnostics.EventLog" }] := by
    decide +kernel
  obtain ⟨places, hplaces⟩ := (outermost_references_reported ["System.Windows", "System.Web"]
    watchedTypes importingUnit).1
  refine ⟨hhits, places, hplaces, ?_⟩
  rw [hplaces.hit_at.length_eq, hhits.1]
  rfl

/-! ### What is lost below a hit -/

theorem isSome_typeHit?_iff {types : List TypeRef} {resolver : Option Resolver} {n : Node} :
    (typeHit? types resolver n).isSome = true ↔ ∃ t ∈ types, RefersToType resolver t n :=
  isSome_iff_exists_fits (fun _ _ => typeHit?_eq_some_iff) (fun n t _ => exists_isTypeHit n t) n

/-- A type is among those reported for a unit. -/
def Reported (types : List TypeRef) (u : LoadedUnit) (fullName : String) : Prop :=
  ∃ hit ∈ typeHits types u, hit.evidence = fullName

theorem reported_iff {types : List TypeRef} {u : LoadedUnit} {fullName : String} :
    Reported types u fullName ↔
      ∃ p n t, Outermost (fun n => ∃ t ∈ types, RefersToType u.resolver t n) u.unit.root p ∧
        u.unit.root.at? p = some n ∧ FirstFit (RefersToType u.resolver · n) types t ∧
        t.fullName = fullName := by
  simp only [Reported, typeHits, mem_collect_iff, isSome_typeHit?_iff, typeHit?_eq_some_iff]
  constructor
  · rintro ⟨hit, ⟨p, n, hp, hn, t, ht, text, -, rfl⟩, rfl⟩
    exact ⟨p, n, t, hp, hn, ht, rfl⟩
  · rintro ⟨p, n, t, hp, hn, ht, rfl⟩
    exact ⟨_, ⟨p, n, hp, hn, t, ht, isTypeHit_iff.mpr rfl⟩, rfl⟩

/-- At a node that refers to a type, or at one above it, a type is reported. -/
theorem exists_reported_above {types : List TypeRef} {u : LoadedUnit} {p : List ℕ} {n : Node}
    (hn : u.unit.root.at? p = some n) (hrefers : ∃ t ∈ types, RefersToType u.resolver t n) :
    ∃ q m t, q <+: p ∧ u.unit.root.at? q = some m ∧
      FirstFit (RefersToType u.resolver · m) types t ∧ Reported types u t.fullName := by
  obtain ⟨q, hqp, hq⟩ :=
    exists_outermost (M := fun n => ∃ t ∈ types, RefersToType u.resolver t n) hn hrefers
  obtain ⟨m, hm, hmatch⟩ := hq.1
  obtain ⟨t, ht⟩ := exists_firstFit_iff.mpr hmatch
  exact ⟨q, m, t, hqp, hm, ht, reported_iff.mpr ⟨q, m, t, hq, hm, ht, rfl⟩⟩

/-- **Which types are reported.** A type is reported exactly if it is the first that some node
refers to and no node above that one refers to a type. So what a node refers to is reported at
that node, or a type that a node above it refers to is reported in its place; and nothing is lost
as long as a node and the nodes below it never refer to different types. -/
theorem type_reported_iff (types : List TypeRef) (u : LoadedUnit) :
    (∀ fullName, Reported types u fullName ↔
      ∃ p n t, u.unit.root.at? p = some n ∧ FirstFit (RefersToType u.resolver · n) types t ∧
        t.fullName = fullName ∧
        ∀ q m, Above q p → u.unit.root.at? q = some m →
          ∀ t ∈ types, ¬RefersToType u.resolver t m) ∧
    (∀ p n, u.unit.root.at? p = some n → (∃ t ∈ types, RefersToType u.resolver t n) →
      ∃ q m t, q <+: p ∧ u.unit.root.at? q = some m ∧
        FirstFit (RefersToType u.resolver · m) types t ∧ Reported types u t.fullName) ∧
    ((∀ q p m n t t', q <+: p → u.unit.root.at? q = some m → u.unit.root.at? p = some n →
        t ∈ types → t' ∈ types → RefersToType u.resolver t m → RefersToType u.resolver t' n →
        t.fullName = t'.fullName) →
      ∀ p n t, u.unit.root.at? p = some n → t ∈ types → RefersToType u.resolver t n →
        Reported types u t.fullName) := by
  refine ⟨fun fullName => reported_iff.trans ?_, fun p n => exists_reported_above,
    fun hone p n t hn ht hrefers => ?_⟩
  · constructor
    · rintro ⟨p, n, t, hp, hn, ht, hname⟩
      exact ⟨p, n, t, hn, ht, hname, fun q m hq hm t ht hrefers => hp.2 q m hq hm ⟨t, ht, hrefers⟩⟩
    · rintro ⟨p, n, t, hn, ht, hname, habove⟩
      refine ⟨p, n, t, ⟨⟨n, hn, t, ht.mem, ht.1⟩, fun q m hq hm => ?_⟩, hn, ht, hname⟩
      rintro ⟨t, ht, hrefers⟩
      exact habove q m hq hm t ht hrefers
  · obtain ⟨q, m, first, hqp, hm, hfirst, hreported⟩ := exists_reported_above hn ⟨t, ht, hrefers⟩
    rwa [hone q p m n first t hqp hm hn hfirst.mem ht hfirst.1 hrefers] at hreported

/-- A unit with one expression. -/
def unitOf (expression : Node) : LoadedUnit where
  unit :=
    { path := "a.cs"
      root := { kind := .compilationUnit, line := 1, children := [expression] } }

/-- A member access and its first part, which refer to the same type. -/
def localMachine : Node where
  kind := .memberAccess
  text := some "Registry.LocalMachine"
  line := 3
  children := [{ kind := .identifier, text := some "Registry", line := 3 }]

/-- In a member access only the parts of the name are passed over, so nothing is lost. -/
theorem type_reported_iff_localMachine :
    let u := unitOf localMachine
    (∀ q p m n t t', q <+: p → u.unit.root.at? q = some m → u.unit.root.at? p = some n →
      t ∈ watchedTypes → t' ∈ watchedTypes → RefersToType u.resolver t m →
      RefersToType u.resolver t' n → t.fullName = t'.fullName) ∧
    ∀ p n t, u.unit.root.at? p = some n → t ∈ watchedTypes → RefersToType u.resolver t n →
      Reported watchedTypes u t.fullName := by
  intro u
  have hchecked : ∀ p ∈ u.unit.root.places, (u.unit.root.at? p).all (fun n =>
      watchedTypes.all fun t => !(mayReferToType n.kind && t.isMeantBy none n) ||
        t.fullName == "Microsoft.Win32.Registry") = true := by
    decide +kernel
  have hregistry : ∀ p n t, u.unit.root.at? p = some n → t ∈ watchedTypes →
      RefersToType u.resolver t n → t.fullName = "Microsoft.Win32.Registry" := by
    intro p n t hn ht hrefers
    have hone := List.all_eq_true.mp (Node.of_all_places hchecked hn) t ht
    have hkind : mayReferToType n.kind = true := mayReferToType_iff.mpr hrefers.1
    have hmeant : t.isMeantBy none n = true := (refersToType_iff_isMeantBy hkind).mp hrefers
    simpa [hkind, hmeant] using hone
  have hone : ∀ q p m n t t', q <+: p → u.unit.root.at? q = some m →
      u.unit.root.at? p = some n → t ∈ watchedTypes → t' ∈ watchedTypes →
      RefersToType u.resolver t m → RefersToType u.resolver t' n → t.fullName = t'.fullName :=
    fun q p m n t t' _ hm hn ht ht' hrefers hrefers' =>
      (hregistry q m t hm ht hrefers).trans (hregistry p n t' hn ht' hrefers').symm
  exact ⟨hone, (type_reported_iff watchedTypes u).2.2 hone⟩

/-- An object that is created from another expression. -/
def logOfRegistry : Node where
  kind := .objectCreation
  text := some "EventLog"
  line := 5
  children := [{ kind := .memberAccess, text := some "Registry.LocalMachine", line := 6 }]

/-- **A type can be lost below another**: the argument from which an object is created is not
reported, although it refers to a type that is looked for and the object is of another one. -/
theorem type_lost_below_another :
    (¬∀ (types : List TypeRef) (u : LoadedUnit) (p : List ℕ) (n : Node) (t : TypeRef),
      u.unit.root.at? p = some n → FirstFit (RefersToType u.resolver · n) types t →
        Reported types u t.fullName) ∧
    typeHits watchedTypes (unitOf logOfRegistry) =
      [{ line := 5, subject := "EventLog", evidence := "System.Diagnostics.EventLog" }] := by
  have hhits : typeHits watchedTypes (unitOf logOfRegistry) =
      [{ line := 5, subject := "EventLog", evidence := "System.Diagnostics.EventLog" }] := by
    decide +kernel
  refine ⟨fun hall => ?_, hhits⟩
  obtain ⟨argument, hargument⟩ : ∃ n, (unitOf logOfRegistry).unit.root.at? [0, 0] = some n :=
    ⟨_, rfl⟩
  have hfound : ((unitOf logOfRegistry).unit.root.at? [0, 0]).bind (typeHit? watchedTypes none) =
      some { line := 6, subject := "Registry.LocalMachine"
             evidence := "Microsoft.Win32.Registry" } := by
    decide +kernel
  rw [hargument, Option.bind_some, typeHit?_eq_some_iff] at hfound
  obtain ⟨t, ht, hhit⟩ := hfound
  obtain ⟨hit, hmem, hevidence⟩ := hall watchedTypes (unitOf logOfRegistry) [0, 0] argument t
    hargument ht
  -- the only hit is for the other type
  have hname : "Microsoft.Win32.Registry" = t.fullName :=
    congrArg Hit.evidence (isTypeHit_iff.mp hhit)
  rw [hhits, List.mem_singleton] at hmem
  rw [hmem, ← hname] at hevidence
  exact absurd hevidence (by decide +kernel)

end PlatformAudit.Detect
