import PlatformAudit.Detect.Attributes
import PlatformAudit.Proofs.Code.Listing
import PlatformAudit.Proofs.Text.LatinCase

/-!
# Attributes by their names

An attribute is known by its **stem**. The stem is found in two steps: the simple name is what
follows the last point of a name, without type arguments and surrounding white space, and the stem
is the simple name without the word `Attribute` at its end, if there is something before that
word. Both steps are stated here by how a name is put together
(`PlatformAudit.Detect.IsSimpleName`, `PlatformAudit.Detect.HasStem`), and two names mean the same
attribute if their stems are equal up to the case of Latin letters.

The detector meets every attribute where the node is that it stands on. So its hits are listed by
the places of these nodes, which ascend in the order of the text, and the numbers of their children;
and neither a namespace nor the final word makes a difference to a name
(`PlatformAudit.Detect.attributeHits_listed`).

The case of letters is ignored when stems are compared, but not when the final word is looked for.
Hence names that are equal up to case mean the same attribute only if both end in the word as it
is written here, or neither does (`PlatformAudit.Detect.attributeNames_ignoringCase`).
-/

namespace PlatformAudit.Detect

open Text Code

variable {name simple stem outer : List Char}

/-! ### Simple names -/

/-- **The simple name in a name**: what follows the last point. White space around the name and
type arguments behind it do not belong to it. -/
def IsSimpleName (name simple : List Char) : Prop :=
  ∃ lead qualifier trail arguments,
    name = lead ++ (qualifier ++ simple ++ trail) ++ arguments ∧
    (∀ c ∈ lead, isBlank c = true) ∧ (∀ c ∈ trail, isBlank c = true) ∧
    Unpadded (qualifier ++ simple) ∧ '<' ∉ qualifier ++ simple ∧
    (∀ c ∈ arguments.head?, c = '<') ∧ (∀ c ∈ qualifier.getLast?, c = '.') ∧ '.' ∉ simple

theorem bracket_not_mem_of_blank {cs : List Char} (h : ∀ c ∈ cs, isBlank c = true) : '<' ∉ cs := by
  intro hmem
  exact absurd (h '<' hmem) (by decide)

/-- **The simple name is what the cuts leave of a name.** -/
theorem simpleName_eq_iff : simpleName name = simple ↔ IsSimpleName name simple := by
  constructor
  · intro h
    obtain ⟨arguments, hname, hhead, harguments⟩ :=
      takeWhile_eq_iff.mp (Eq.refl (beforeFirst '<' name))
    obtain ⟨lead, trail, hcut, hlead, htrail, hunpadded⟩ :=
      trim_eq_iff.mp (Eq.refl (trim (beforeFirst '<' name)))
    obtain ⟨qualifier, hcore, hqualifier, hsimple⟩ := afterLastOf_eq_iff.mp h
    rw [hcore] at hcut hunpadded
    refine ⟨lead, qualifier, trail, arguments, ?_, hlead, htrail, hunpadded, fun hmem => ?_, ?_,
      by simpa using hqualifier, fun hmem => by simpa using hsimple '.' hmem⟩
    · rw [← hcut]
      exact hname
    · have hin : '<' ∈ beforeFirst '<' name := by
        rw [hcut]
        exact List.mem_append_right _ (List.mem_append_left _ hmem)
      simpa using hhead '<' hin
    · simpa using harguments
  · rintro ⟨lead, qualifier, trail, arguments, rfl, hlead, htrail, hunpadded, hbracket, harguments,
      hqualifier, hpoint⟩
    have hfree : '<' ∉ lead ++ (qualifier ++ simple ++ trail) := by
      simp only [List.mem_append, not_or] at hbracket ⊢
      exact ⟨bracket_not_mem_of_blank hlead, hbracket, bracket_not_mem_of_blank htrail⟩
    have hcut : beforeFirst '<' (lead ++ (qualifier ++ simple ++ trail) ++ arguments) =
        lead ++ (qualifier ++ simple ++ trail) := by
      refine takeWhile_eq_iff.mpr ⟨arguments, rfl, fun c hc => ?_, fun c hc => ?_⟩
      · simpa using ne_of_mem_of_not_mem hc hfree
      · simpa using harguments c hc
    have htrim : trim (lead ++ (qualifier ++ simple ++ trail)) = qualifier ++ simple :=
      trim_eq_iff.mpr ⟨lead, trail, rfl, hlead, htrail, hunpadded⟩
    rw [simpleName, hcut, htrim]
    refine afterLastOf_eq_iff.mpr ⟨qualifier, rfl, fun c hc => ?_, fun c hc => ?_⟩
    · simpa using hqualifier c hc
    · simpa using ne_of_mem_of_not_mem hc hpoint

theorem IsSimpleName.unique {other : List Char} (h : IsSimpleName name simple)
    (h' : IsSimpleName name other) : simple = other :=
  (simpleName_eq_iff.mpr h).symm.trans (simpleName_eq_iff.mpr h')

/-- A name without namespace and type arguments is its own simple name. -/
theorem isSimpleName_self (hunpadded : Unpadded simple) (hbracket : '<' ∉ simple)
    (hpoint : '.' ∉ simple) : IsSimpleName simple simple :=
  ⟨[], [], [], [], by simp, by simp, by simp, hunpadded, hbracket, by simp, by simp, hpoint⟩

/-- The namespace before a name does not belong to its simple name. -/
theorem isSimpleName_qualified (hne : simple ≠ []) (hunpadded : Unpadded simple)
    (hbracket : '<' ∉ simple) (hpoint : '.' ∉ simple) (houter : '<' ∉ outer) :
    IsSimpleName (outer ++ '.' :: simple) simple := by
  -- white space before the namespace is before the whole name
  obtain ⟨lead, hlead, hblank, hhead⟩ := trimStart_eq_iff.mp (Eq.refl (trimStart outer))
  have hcore : ∀ c ∈ (trimStart outer ++ ['.'] ++ simple).head?, isBlank c = false := by
    intro c hc
    cases htrimmed : trimStart outer with
    | nil =>
      rw [htrimmed] at hc
      obtain rfl := Option.some.inj hc
      decide
    | cons d ds =>
      rw [htrimmed] at hc hhead
      exact hhead c hc
  refine ⟨lead, trimStart outer ++ ['.'], [], [], ?_, hblank, by simp, ⟨hcore, ?_⟩, ?_, by simp,
    by simp, hpoint⟩
  · nth_rewrite 1 [hlead]
    simp
  · rw [List.getLast?_append_of_ne_nil _ hne]
    exact hunpadded.2
  · simp only [List.mem_append, List.mem_singleton, not_or]
    refine ⟨⟨fun hmem => houter (mem_of_mem_trimStart hmem), by decide⟩, hbracket⟩

/-! ### Stems -/

/-- A name ends in the word `Attribute`, and something stands before that word in its simple
name. -/
def CarriesEnding (name : List Char) : Prop :=
  ∃ stem, stem ≠ [] ∧ IsSimpleName name (stem ++ "Attribute".toList)

/-- **The stem of the name of an attribute**: its simple name, without the final word if the name
carries it. -/
def HasStem (name stem : List Char) : Prop :=
  stem ≠ [] ∧ IsSimpleName name (stem ++ "Attribute".toList) ∨
    IsSimpleName name stem ∧ ¬CarriesEnding name

theorem attributeStem_hasStem (name : List Char) : HasStem name (attributeStem name) := by
  have hsimple := simpleName_eq_iff.mp (Eq.refl (simpleName name))
  have hkept (h : ∀ front, front ≠ [] → simpleName name ≠ front ++ "Attribute".toList) :
      IsSimpleName name (simpleName name) ∧ ¬CarriesEnding name := by
    refine ⟨hsimple, ?_⟩
    rintro ⟨front, hne, hfront⟩
    exact h front hne (simpleName_eq_iff.mpr hfront)
  rw [attributeStem]
  split
  next hdrop =>
    -- the simple name is the word itself
    rw [dropFinal?_eq_some_iff] at hdrop
    refine .inr (hkept fun front hne hfront => hne ?_)
    exact List.append_cancel_right (hfront.symm.trans hdrop)
  next front hne hdrop =>
    rw [dropFinal?_eq_some_iff] at hdrop
    refine .inl ⟨fun hnil => hne ?_, hdrop ▸ hsimple⟩
    rw [hnil]
  next hdrop =>
    refine .inr (hkept fun front _ hfront => ?_)
    rw [dropFinal?_eq_some_iff.mpr hfront] at hdrop
    cases hdrop

theorem HasStem.unique {other : List Char} (h : HasStem name stem) (h' : HasStem name other) :
    stem = other := by
  rcases h with ⟨hne, h⟩ | ⟨h, hnot⟩
  · rcases h' with ⟨-, h'⟩ | ⟨-, hnot'⟩
    · exact List.append_cancel_right (h.unique h')
    · exact absurd ⟨stem, hne, h⟩ hnot'
  · rcases h' with ⟨hne', h'⟩ | ⟨h', -⟩
    · exact absurd ⟨other, hne', h'⟩ hnot
    · exact h.unique h'

/-- **The stem is what is computed.** -/
theorem attributeStem_eq_iff : attributeStem name = stem ↔ HasStem name stem := by
  constructor
  · rintro rfl
    exact attributeStem_hasStem name
  · exact (attributeStem_hasStem name).unique

/-- **Two names mean the same attribute**: their stems are equal up to the case of Latin
letters. -/
def SameAttribute (a b : String) : Prop :=
  ∃ s t, HasStem a.toList s ∧ HasStem b.toList t ∧ sameIgnoringCase s t = true

theorem sameAttribute_iff {a b : String} :
    SameAttribute a b ↔
      sameIgnoringCase (attributeStem a.toList) (attributeStem b.toList) = true := by
  simp only [SameAttribute, ← attributeStem_eq_iff, exists_and_left, exists_eq_left']

theorem sameAttribute_iff_map {a b : String} :
    SameAttribute a b ↔
      (attributeStem a.toList).map asciiLower = (attributeStem b.toList).map asciiLower :=
  sameAttribute_iff.trans sameIgnoringCase_iff

theorem SameAttribute.refl (a : String) : SameAttribute a a :=
  sameAttribute_iff_map.mpr rfl

/-- A name of a table is the first that means the attribute written. -/
def IsFirstNamed (names : List String) (written name : String) : Prop :=
  ∃ earlier later, names = earlier ++ name :: later ∧ SameAttribute name written ∧
    ∀ other ∈ earlier, ¬SameAttribute other written

theorem attributeNamed?_eq_some_iff {names : List String} {written name : String} :
    attributeNamed? written names = some name ↔ IsFirstNamed names written name := by
  simp only [attributeNamed?, List.find?_eq_some_iff_append, IsFirstNamed, sameAttribute_iff,
    Bool.not_eq_true', Bool.not_eq_true]
  constructor
  · rintro ⟨hname, earlier, later, hsplit, hearlier⟩
    exact ⟨earlier, later, hsplit, hname, hearlier⟩
  · rintro ⟨earlier, later, hsplit, hname, hearlier⟩
    exact ⟨hname, earlier, later, hsplit, hearlier⟩

theorem exists_isFirstNamed_iff {names : List String} {written : String} :
    (∃ name, IsFirstNamed names written name) ↔ ∃ name ∈ names, SameAttribute name written := by
  simp only [← attributeNamed?_eq_some_iff, ← Option.isSome_iff_exists, attributeNamed?,
    List.find?_isSome, sameAttribute_iff]

/-- What a table says of a name depends on its stem only. -/
theorem attributeNamed?_congr {a b : String} (h : SameAttribute a b) (names : List String) :
    attributeNamed? a names = attributeNamed? b names := by
  have hsame (n : String) : sameIgnoringCase (attributeStem n.toList) (attributeStem a.toList) =
      sameIgnoringCase (attributeStem n.toList) (attributeStem b.toList) := by
    rw [Bool.eq_iff_iff, sameIgnoringCase_iff, sameIgnoringCase_iff, sameAttribute_iff_map.mp h]
  simp only [attributeNamed?, hsame]

/-! ### Spellings of a name -/

/-- The name of an attribute alone: no namespace, no type arguments, no surrounding white space, no
final word. -/
structure IsPlainAttribute (name : List Char) : Prop where
  ne_nil : name ≠ []
  noPoint : '.' ∉ name
  noBracket : '<' ∉ name
  unpadded : Unpadded name
  noEnding : ¬"Attribute".toList <:+ name

namespace IsPlainAttribute

theorem withEnding (h : IsPlainAttribute name) :
    Unpadded (name ++ "Attribute".toList) ∧ '<' ∉ name ++ "Attribute".toList ∧
      '.' ∉ name ++ "Attribute".toList := by
  refine ⟨⟨fun c hc => h.unpadded.1 c ?_, fun c hc => ?_⟩, ?_, ?_⟩
  · rwa [List.head?_append_of_ne_nil _ h.ne_nil] at hc
  · rw [List.getLast?_append_of_ne_nil _ (by decide)] at hc
    obtain rfl := Option.some.inj hc
    decide
  · rw [List.mem_append, not_or]
    exact ⟨h.noBracket, by decide⟩
  · rw [List.mem_append, not_or]
    exact ⟨h.noPoint, by decide⟩

/-- A spelling whose simple name is the name alone has the name for its stem. -/
theorem hasStem (h : IsPlainAttribute name) {written : List Char}
    (hwritten : IsSimpleName written name) : HasStem written name := by
  refine .inr ⟨hwritten, ?_⟩
  rintro ⟨stem, -, hstem⟩
  exact h.noEnding ⟨stem, hstem.unique hwritten⟩

theorem hasStem_of_ending (h : IsPlainAttribute name) {written : List Char}
    (hwritten : IsSimpleName written (name ++ "Attribute".toList)) : HasStem written name :=
  .inl ⟨h.ne_nil, hwritten⟩

/-- **Neither a namespace nor the final word changes the stem.** -/
theorem hasStem_of_spelling {w ns written : String} (h : IsPlainAttribute w.toList)
    (hns : '<' ∉ ns.toList)
    (hwritten : written ∈ [w, w ++ "Attribute", ns ++ "." ++ w, ns ++ "." ++ w ++ "Attribute"]) :
    HasStem written.toList w.toList := by
  obtain ⟨hunpadded, hbracket, hpoint⟩ := h.withEnding
  have hne : w.toList ++ "Attribute".toList ≠ [] := List.append_ne_nil_of_left_ne_nil h.ne_nil _
  simp only [List.mem_cons, List.not_mem_nil, or_false] at hwritten
  rcases hwritten with rfl | rfl | rfl | rfl
  · exact h.hasStem (isSimpleName_self h.unpadded h.noBracket h.noPoint)
  · rw [String.toList_append]
    exact h.hasStem_of_ending (isSimpleName_self hunpadded hbracket hpoint)
  · rw [String.toList_append, String.toList_append, List.append_assoc]
    exact h.hasStem (isSimpleName_qualified h.ne_nil h.unpadded h.noBracket h.noPoint hns)
  · rw [String.toList_append, String.toList_append, String.toList_append, List.append_assoc,
      List.append_assoc]
    exact h.hasStem_of_ending (isSimpleName_qualified hne hunpadded hbracket hpoint hns)

end IsPlainAttribute

/-! ### Attributes in a tree -/

/-- The attributes are the children of that kind, each with its parent. -/
theorem attributesIn_eq (root : Node) :
    attributesIn root = root.withChildren.filter fun pair => pair.2.kind = .attributeUse := by
  rw [attributesIn, Node.withChildren, List.filter_flatMap]
  refine List.flatMap_congr fun owner _ => ?_
  rw [List.filter_map]
  rfl

/-- **The hit of an attribute** on a node: it names the node, or the attribute if the node has no
name, and the first entry of the table that means the attribute. -/
def IsAttributeHit (names : List String) (owner attr : Node) (hit : Hit) : Prop :=
  attr.kind = .attributeUse ∧ ∃ name, IsFirstNamed names attr.label name ∧
    hit = { line := attr.line
            subject := if owner.label = "" then attr.label else owner.label
            evidence := name }

/-- What the detector makes of a node and one of its children. -/
def hitAt? (names : List String) (pair : Node × Node) : Option Hit :=
  if pair.2.kind = .attributeUse then attributeHit? names pair.1 pair.2 else none

theorem attributeHits_eq (names : List String) (u : LoadedUnit) :
    attributeHits names u = u.unit.root.withChildren.filterMap (hitAt? names) := by
  rw [attributeHits, attributesIn_eq, List.filterMap_filter]
  refine congrArg (List.filterMap · u.unit.root.withChildren) (funext fun pair => ?_)
  simp only [hitAt?, decide_eq_true_eq]

theorem hitAt?_eq_some_iff {names : List String} {owner attr : Node} {hit : Hit} :
    hitAt? names (owner, attr) = some hit ↔ IsAttributeHit names owner attr hit := by
  have hlabel : (owner.label.isEmpty = true) = (owner.label = "") :=
    propext String.isEmpty_iff
  rw [hitAt?, Option.ite_none_right_eq_some, attributeHit?, Option.map_eq_some_iff]
  simp only [attributeNamed?_eq_some_iff, hlabel, IsAttributeHit, eq_comm (a := hit)]

/-- **The hits of attributes.** There is one for each attribute that stands on a node and whose
name is in the table, in the order of the places of these nodes and, on one node, in the order of
its children. The places of all nodes ascend as the tree is listed, each node before its children.
A name may be written with or without a namespace and with or without the word `Attribute` at its
end. -/
theorem attributeHits_listed (names : List String) (u : LoadedUnit) :
    (u.unit.root.places.Pairwise (· < ·) ∧
      List.Forall₂ (fun p n => u.unit.root.at? p = some n) u.unit.root.places
        u.unit.root.preorder) ∧
    (∃ places : List (List ℕ × ℕ), places.Pairwise (Prod.Lex (· < ·) (· < ·)) ∧
      (∀ p i, (p, i) ∈ places ↔ ∃ attr, u.unit.root.at? (p ++ [i]) = some attr ∧
        attr.kind = .attributeUse ∧ ∃ name ∈ names, SameAttribute name attr.label) ∧
      List.Forall₂ (fun k hit => ∃ owner attr, u.unit.root.at? k.1 = some owner ∧
          u.unit.root.at? (k.1 ++ [k.2]) = some attr ∧ IsAttributeHit names owner attr hit)
        places (attributeHits names u)) ∧
    ∀ w ns : String, IsPlainAttribute w.toList → '<' ∉ ns.toList →
      ∀ written ∈ [w, w ++ "Attribute", ns ++ "." ++ w, ns ++ "." ++ w ++ "Attribute"],
        attributeNamed? written names = attributeNamed? w names := by
  refine ⟨?_, ?_, ?_⟩
  · have hplaces := u.unit.root.listedBy_places
    rw [Node.descendants_eq] at hplaces
    exact ⟨hplaces.inOrder, hplaces.forall₂⟩
  · obtain ⟨keys, hchildren⟩ := u.unit.root.listedBy_children
    have hlisted := hchildren.filterMap (hitAt? names)
    rw [attributeHits_eq]
    refine ⟨_, hlisted.inOrder, fun p i => ?_, hlisted.forall₂.imp fun k hit hk => ?_⟩
    · rw [hlisted.mem_iff]
      constructor
      · rintro ⟨hit, hk⟩
        obtain ⟨⟨owner, attr⟩, hpair, hhit⟩ := Option.bind_eq_some_iff.mp hk
        obtain ⟨hkind, name, hname, -⟩ := hitAt?_eq_some_iff.mp hhit
        exact ⟨attr, (Node.childAt?_eq_some_iff.mp hpair).2, hkind,
          exists_isFirstNamed_iff.mp ⟨name, hname⟩⟩
      · rintro ⟨attr, hattr, hkind, hname⟩
        obtain ⟨name, hname⟩ := exists_isFirstNamed_iff.mpr hname
        obtain ⟨owner, howner, -⟩ := Option.bind_eq_some_iff.mp (Node.at?_concat .. ▸ hattr)
        exact ⟨_, Option.bind_eq_some_iff.mpr ⟨(owner, attr),
          Node.childAt?_eq_some_iff.mpr ⟨howner, hattr⟩,
          hitAt?_eq_some_iff.mpr ⟨hkind, name, hname, rfl⟩⟩⟩
    · obtain ⟨⟨owner, attr⟩, hpair, hhit⟩ := Option.bind_eq_some_iff.mp hk
      obtain ⟨howner, hattr⟩ := Node.childAt?_eq_some_iff.mp hpair
      exact ⟨owner, attr, howner, hattr, hitAt?_eq_some_iff.mp hhit⟩
  · intro w ns hw hns written hwritten
    have hself : HasStem w.toList w.toList := hw.hasStem_of_spelling hns (List.mem_cons_self ..)
    refine attributeNamed?_congr ⟨w.toList, w.toList, ?_, hself, ?_⟩ names
    · exact hw.hasStem_of_spelling hns hwritten
    · exact sameIgnoringCase_iff.mpr rfl

/-- A name in full, with white space before it. -/
theorem attributeHits_listed_comVisible :
    IsPlainAttribute "ComVisible".toList ∧ '<' ∉ " System.Runtime".toList ∧
      attributeNamed? " System.Runtime.ComVisibleAttribute" ["Guid", "comvisible"] =
        attributeNamed? "ComVisible" ["Guid", "comvisible"] ∧
      attributeNamed? "ComVisible" ["Guid", "comvisible"] = some "comvisible" := by
  have hplain : IsPlainAttribute "ComVisible".toList := by
    refine ⟨by decide, by decide, by decide, ⟨?_, ?_⟩, by decide⟩
    · rintro c ⟨⟩
      decide
    · rintro c ⟨⟩
      decide
  have hfree : '<' ∉ " System.Runtime".toList := by decide
  refine ⟨hplain, hfree, ?_, by decide⟩
  exact (attributeHits_listed ["Guid", "comvisible"]
    { unit := { path := "A.cs", root := { kind := .compilationUnit, line := 1 } } }).2.2
    "ComVisible" " System.Runtime" hplain hfree _ (by decide)

/-! ### Names in another case -/

theorem simpleName_map_asciiLower (name : List Char) :
    simpleName (name.map asciiLower) = (simpleName name).map asciiLower := by
  have hbracket (c : Char) : decide (asciiLower c ≠ '<') = decide (c ≠ '<') :=
    decide_eq_decide.mpr (not_congr (asciiLower_eq_iff (by decide)))
  have hpoint (c : Char) : decide (asciiLower c = '.') = decide (c = '.') :=
    decide_eq_decide.mpr (asciiLower_eq_iff (by decide))
  have hcut : beforeFirst '<' (name.map asciiLower) = (beforeFirst '<' name).map asciiLower := by
    simp only [beforeFirst, List.takeWhile_map, Function.comp_def, hbracket]
  rw [simpleName, hcut, trim_map_asciiLower]
  exact afterLastOf_map_asciiLower hpoint _

theorem carriesEnding_iff :
    CarriesEnding name ↔ attributeStem name ++ "Attribute".toList = simpleName name := by
  constructor
  · rintro ⟨stem, hne, hstem⟩
    rw [attributeStem_eq_iff.mpr (.inl ⟨hne, hstem⟩), simpleName_eq_iff.mpr hstem]
  · intro h
    rcases attributeStem_hasStem name with ⟨hne, hstem⟩ | ⟨hstem, -⟩
    · exact ⟨_, hne, hstem⟩
    · -- the stem cannot be the simple name and shorter than it
      have hlength := congrArg List.length (h.trans (simpleName_eq_iff.mpr hstem))
      rw [List.length_append] at hlength
      exact absurd hlength (by simp)

theorem attributeStem_of_not_carriesEnding (h : ¬CarriesEnding name) :
    attributeStem name = simpleName name := by
  rcases attributeStem_hasStem name with ⟨hne, hstem⟩ | ⟨hstem, -⟩
  · exact absurd ⟨_, hne, hstem⟩ h
  · exact (simpleName_eq_iff.mpr hstem).symm

/-- A name that carries the final word and one that does not cannot have stems of one length if
their simple names have one length. -/
theorem length_ne_of_carriesEnding {a b : List Char} (ha : CarriesEnding a)
    (hb : ¬CarriesEnding b) (h : (simpleName a).length = (simpleName b).length) :
    (attributeStem a).length ≠ (attributeStem b).length := by
  rw [attributeStem_of_not_carriesEnding hb, ← h, ← carriesEnding_iff.mp ha, List.length_append]
  exact (Nat.lt_add_of_pos_right (by decide)).ne

/-- **Names that are equal up to case mean the same attribute if and only if both carry the final
word or neither does.** -/
theorem sameAttribute_iff_of_sameIgnoringCase {a b : String}
    (h : sameIgnoringCase a.toList b.toList = true) :
    SameAttribute a b ↔ (CarriesEnding a.toList ↔ CarriesEnding b.toList) := by
  have hsimple : (simpleName a.toList).map asciiLower = (simpleName b.toList).map asciiLower := by
    rw [← simpleName_map_asciiLower, ← simpleName_map_asciiLower, sameIgnoringCase_iff.mp h]
  have hlength : (simpleName a.toList).length = (simpleName b.toList).length := by
    simpa using congrArg List.length hsimple
  rw [sameAttribute_iff_map]
  constructor
  · intro hstems
    have hequal : (attributeStem a.toList).length = (attributeStem b.toList).length := by
      simpa using congrArg List.length hstems
    constructor
    · intro ha
      by_contra hb
      exact length_ne_of_carriesEnding ha hb hlength hequal
    · intro hb
      by_contra ha
      exact length_ne_of_carriesEnding hb ha hlength.symm hequal.symm
  · intro hending
    by_cases ha : CarriesEnding a.toList
    · have hb := hending.mp ha
      rw [← carriesEnding_iff.mp ha, ← carriesEnding_iff.mp hb, List.map_append,
        List.map_append] at hsimple
      exact List.append_cancel_right hsimple
    · have hb := mt hending.mpr ha
      rw [attributeStem_of_not_carriesEnding ha, attributeStem_of_not_carriesEnding hb]
      exact hsimple

/-- The tables do not tell two names apart if and only if these mean the same attribute. -/
theorem forall_attributeNamed?_eq_iff {a b : String} :
    (∀ names, attributeNamed? a names = attributeNamed? b names) ↔ SameAttribute a b := by
  constructor
  · intro h
    -- the table with one of the names
    have ha : IsFirstNamed [a] a a := ⟨[], [], rfl, .refl a, by simp⟩
    have hb := (h [a]).symm.trans (attributeNamed?_eq_some_iff.mpr ha)
    exact sameAttribute_iff.mpr (by simpa using List.find?_some hb)
  · exact fun h names => attributeNamed?_congr h names

/-- The entry at a position of a table, taken alone, is found for the attribute written. -/
def MatchesAt (names : List String) (written : String) (i : ℕ) : Prop :=
  ∃ name, names[i]? = some name ∧ attributeNamed? written [name] = some name

theorem attributeNamed?_singleton_iff {written name : String} :
    attributeNamed? written [name] = some name ↔ SameAttribute name written := by
  rw [sameAttribute_iff, attributeNamed?, List.find?_singleton, Option.ite_none_right_eq_some,
    and_iff_left rfl]

/-- Tables match at the same positions if and only if their entries mean the same attributes, one
by one. -/
theorem forall_matchesAt_iff {names names' : List String} (hlength : names.length = names'.length) :
    (∀ written i, MatchesAt names written i ↔ MatchesAt names' written i) ↔
      List.Forall₂ SameAttribute names names' := by
  simp only [MatchesAt, attributeNamed?_singleton_iff]
  constructor
  · intro h
    refine List.forall₂_iff_get.mpr ⟨hlength, fun i hi hi' => ?_⟩
    -- what the entry of the one table matches is the entry of the other
    have hself : ∃ name, names'[i]? = some name ∧ SameAttribute name (names'.get ⟨i, hi'⟩) :=
      ⟨_, List.getElem?_eq_getElem hi', .refl _⟩
    obtain ⟨name, hname, hsame⟩ := (h _ i).mpr hself
    obtain rfl := Option.some.inj ((List.getElem?_eq_getElem hi).symm.trans hname)
    exact hsame
  · intro h written i
    induction h generalizing i with
    | nil => exact Iff.rfl
    | cons hsame _ ih =>
      cases i with
      | zero =>
        simp only [List.getElem?_cons_zero, Option.some.injEq, exists_eq_left']
        rw [sameAttribute_iff_map, sameAttribute_iff_map, sameAttribute_iff_map.mp hsame]
      | succ i => exact ih (Nat.succ.inj hlength) i

/-- **How far the case of letters counts in names of attributes.** Of names that are equal up to
case, all tables say the same if and only if both carry the final word or neither does; and tables
whose entries are equal up to case match at the same positions if and only if, entry by entry, both
carry the final word or neither does. -/
theorem attributeNames_ignoringCase {a b : String}
    (hab : sameIgnoringCase a.toList b.toList = true) {names names' : List String}
    (hnames : List.Forall₂ (fun n n' => sameIgnoringCase n.toList n'.toList = true) names names') :
    ((∀ table, attributeNamed? a table = attributeNamed? b table) ↔
      (CarriesEnding a.toList ↔ CarriesEnding b.toList)) ∧
    ((∀ written i, MatchesAt names written i ↔ MatchesAt names' written i) ↔
      List.Forall₂ (fun n n' => CarriesEnding n.toList ↔ CarriesEnding n'.toList)
        names names') := by
  rw [forall_attributeNamed?_eq_iff, sameAttribute_iff_of_sameIgnoringCase hab,
    forall_matchesAt_iff hnames.length_eq]
  refine ⟨Iff.rfl, ?_⟩
  induction hnames with
  | nil => exact ⟨fun _ => .nil, fun _ => .nil⟩
  | cons hsame _ ih =>
    rw [List.forall₂_cons, List.forall₂_cons, ih, sameAttribute_iff_of_sameIgnoringCase hsame]

theorem attributeNames_ignoringCase_comVisible :
    let a := "System.ComVisibleAttribute"
    let b := "SYSTEM.comvisibleAttribute"
    let names := ["Guid", "ProgIdAttribute"]
    let names' := ["GUID", "progidAttribute"]
    (sameIgnoringCase a.toList b.toList = true ∧
      List.Forall₂ (fun n n' => sameIgnoringCase n.toList n'.toList = true) names names') ∧
    (∀ table, attributeNamed? a table = attributeNamed? b table) ∧
      ∀ written i, MatchesAt names written i ↔ MatchesAt names' written i := by
  intro a b names names'
  have hab : sameIgnoringCase a.toList b.toList = true := by decide
  have hnames : List.Forall₂ (fun n n' => sameIgnoringCase n.toList n'.toList = true)
      names names' := .cons (by decide) (.cons (by decide) .nil)
  obtain ⟨hwritten, hpositions⟩ := attributeNames_ignoringCase hab hnames
  refine ⟨⟨hab, hnames⟩, hwritten.mpr ?_, hpositions.mpr (.cons ?_ (.cons ?_ .nil))⟩
  · exact iff_of_true (carriesEnding_iff.mpr (by decide)) (carriesEnding_iff.mpr (by decide))
  · exact iff_of_false (mt carriesEnding_iff.mp (by decide)) (mt carriesEnding_iff.mp (by decide))
  · exact iff_of_true (carriesEnding_iff.mpr (by decide)) (carriesEnding_iff.mpr (by decide))

/-- The final word in capitals is not taken off, neither from a name nor from an entry. -/
theorem capital_ending_not_recognised :
    sameIgnoringCase "ComVisibleAttribute".toList "COMVISIBLEATTRIBUTE".toList = true ∧
      attributeNamed? "ComVisibleAttribute" ["ComVisible"] = some "ComVisible" ∧
      attributeNamed? "COMVISIBLEATTRIBUTE" ["ComVisible"] = none ∧
      MatchesAt ["ComVisibleAttribute"] "ComVisible" 0 ∧
      ¬MatchesAt ["COMVISIBLEATTRIBUTE"] "ComVisible" 0 := by
  refine ⟨by decide, by decide, by decide, ⟨"ComVisibleAttribute", rfl, by decide⟩, ?_⟩
  rintro ⟨name, ⟨⟩, hname⟩
  exact absurd hname (by decide)

end PlatformAudit.Detect
