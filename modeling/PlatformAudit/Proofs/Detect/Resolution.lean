import PlatformAudit.Proofs.Detect.References
import PlatformAudit.Proofs.Text.Parts

/-!
# Symbols come before spelling

Where the resolver knows what a node refers to, its text does not matter. So if it knows
this of all nodes that can refer to a type, two trees that are the same but for their
texts (`PlatformAudit.Code.Node.SameButTexts`) have their references at the same places
and for the same types (`PlatformAudit.Detect.resolved_references_ignore_texts`). If a
single node were compared by its text after all, this would be seen not only at that
node: whether it is a hit decides whether the nodes below it are looked at.
-/

namespace PlatformAudit

open Text

/-! ### Trees that are the same but for their texts -/

namespace Code.Node

mutual

/-- A tree without its texts. -/
def withoutTexts : Node → Node
  | ⟨kind, id, _, line, children⟩ => ⟨kind, id, none, line, withoutTextsAll children⟩

/-- Some trees without their texts. -/
def withoutTextsAll : List Node → List Node
  | [] => []
  | n :: ns => n.withoutTexts :: withoutTextsAll ns

end

theorem withoutTextsAll_eq (ns : List Node) : withoutTextsAll ns = ns.map withoutTexts := by
  induction ns with
  | nil => rfl
  | cons n ns ih => rw [withoutTextsAll, ih, List.map_cons]

theorem withoutTexts_eq (n : Node) :
    n.withoutTexts = { n with text := none, children := n.children.map withoutTexts } := by
  obtain ⟨kind, id, text, line, children⟩ := n
  rw [withoutTexts, withoutTextsAll_eq]

theorem at?_withoutTexts (n : Node) (p : List ℕ) :
    n.withoutTexts.at? p = (n.at? p).map withoutTexts := by
  induction p generalizing n with
  | nil => rfl
  | cons i p ih =>
    have hchild : n.withoutTexts.children[i]? = n.children[i]?.map withoutTexts := by
      rw [withoutTexts_eq, List.getElem?_map]
    rw [at?, at?, hchild]
    cases n.children[i]? with
    | none => rfl
    | some c => exact ih c

theorem places_withoutTexts (n : Node) : n.withoutTexts.places = n.places := by
  induction n using induction_on_children with
  | h n ih =>
    rw [places_eq, places_eq, withoutTexts_eq, List.zipIdx_map, List.flatMap_map]
    refine congrArg ([] :: ·) (List.flatMap_congr fun c hc => ?_)
    rw [Prod.map_fst, Prod.map_snd, ih c.1 (mem_of_mem_zipIdx hc)]
    rfl

/-- Two trees are the same but for their texts: they have the same shape, and the nodes at the
same place have the same kind, number and line. -/
def SameButTexts (n m : Node) : Prop :=
  n.withoutTexts = m.withoutTexts

namespace SameButTexts

variable {n m : Node}

theorem kind_eq (h : n.SameButTexts m) : n.kind = m.kind := by
  simpa only [withoutTexts_eq] using congrArg Node.kind h

theorem id_eq (h : n.SameButTexts m) : n.id = m.id := by
  simpa only [withoutTexts_eq] using congrArg Node.id h

theorem line_eq (h : n.SameButTexts m) : n.line = m.line := by
  simpa only [withoutTexts_eq] using congrArg Node.line h

theorem places_eq (h : n.SameButTexts m) : n.places = m.places := by
  rw [← places_withoutTexts n, h, places_withoutTexts]

/-- Such trees have such nodes at the same places. -/
theorem exists_at? (h : n.SameButTexts m) {p : List ℕ} {a : Node} (ha : n.at? p = some a) :
    ∃ b, m.at? p = some b ∧ a.SameButTexts b := by
  have hat := at?_withoutTexts n p
  rw [h, at?_withoutTexts, ha, Option.map_some] at hat
  obtain ⟨b, hb, hab⟩ := Option.map_eq_some_iff.mp hat
  exact ⟨b, hb, hab.symm⟩

end SameButTexts

end Code.Node

namespace Detect

open Code

/-- What is outermost in one of two such trees is outermost in the other, if nodes at the same
place match or do not match together. -/
theorem Outermost.of_sameButTexts {M : Node → Prop} {root root' : Node} {p : List ℕ}
    (hsame : root.SameButTexts root')
    (hM : ∀ p n n', root.at? p = some n → root'.at? p = some n' → (M n ↔ M n'))
    (h : Outermost M root p) : Outermost M root' p := by
  obtain ⟨⟨n, hn, hmatch⟩, habove⟩ := h
  obtain ⟨n', hn', -⟩ := hsame.exists_at? hn
  refine ⟨⟨n', hn', (hM p n n' hn hn').mp hmatch⟩, fun q m' hq hm' hmatch' => ?_⟩
  obtain ⟨m, hm, -⟩ := Node.SameButTexts.exists_at? hsame.symm hm'
  exact habove q m hq hm ((hM q m m' hm hm').mpr hmatch')

theorem outermostPlaces_of_sameButTexts {M : Node → Prop} {root root' : Node}
    (hsame : root.SameButTexts root')
    (hM : ∀ p n n', root.at? p = some n → root'.at? p = some n' → (M n ↔ M n')) :
    outermostPlaces M root = outermostPlaces M root' := by
  classical
  rw [outermostPlaces, outermostPlaces, hsame.places_eq]
  refine List.filter_congr fun p _ => decide_eq_decide.mpr ⟨.of_sameButTexts hsame hM, ?_⟩
  exact .of_sameButTexts hsame.symm fun p n' n hn' hn => (hM p n n' hn hn').symm

/-! ### Nodes with a symbol -/

section Symbols

variable {tables : SymbolTables} {t : TypeRef} {n n' : Node} {s : Symbol}

/-- The tables know what a node refers to. -/
def HasSymbol (tables : SymbolTables) (n : Node) (s : Symbol) : Prop :=
  ∃ id, n.id = some id ∧ tables.nodes.find? id = some s

theorem HasSymbol.resolve_eq (h : HasSymbol tables n s) : tables.resolver.resolve n = some s := by
  obtain ⟨id, hid, hs⟩ := h
  exact Option.bind_eq_some_iff.mpr ⟨id, hid, hs⟩

theorem HasSymbol.of_sameButTexts (h : HasSymbol tables n s) (hsame : n.SameButTexts n') :
    HasSymbol tables n' s := by
  rwa [HasSymbol, ← hsame.id_eq]

/-- **A node with a symbol refers to what its symbol is**, whatever its text. -/
theorem HasSymbol.refersToType_iff (h : HasSymbol tables n s) :
    RefersToType (some tables.resolver) t n ↔
      mayReferToType n.kind = true ∧ t.isSymbol s = true := by
  rw [mayReferToType_iff, isSymbol_iff_isSymbolOf]
  refine and_congr_right fun _ => ⟨?_, fun hs => .inl ⟨_, s, rfl, h.resolve_eq, hs⟩⟩
  rintro (⟨r, s', hr, hs', ht⟩ | ⟨hnone, -⟩)
  · cases hr
    rw [h.resolve_eq] at hs'
    cases hs'
    exact ht
  · have := hnone _ rfl
    rw [h.resolve_eq] at this
    cases this

/-- The tables know what a node refers to, if it can refer to a type at all. -/
def Resolved (tables : SymbolTables) (n : Node) : Prop :=
  mayReferToType n.kind = true → ∃ s, HasSymbol tables n s

theorem Resolved.refersToType_iff (h : Resolved tables n) (hsame : n.SameButTexts n') :
    RefersToType (some tables.resolver) t n ↔ RefersToType (some tables.resolver) t n' := by
  by_cases hkind : mayReferToType n.kind = true
  · obtain ⟨s, hs⟩ := h hkind
    rw [hs.refersToType_iff, (hs.of_sameButTexts hsame).refersToType_iff, hsame.kind_eq]
  · rw [mayReferToType_iff] at hkind
    exact iff_of_false (fun ht => hkind ht.1) fun ht => hkind (hsame.kind_eq ▸ ht.1)

/-- Types with simple names are known by their full names. -/
theorem eq_of_fullName_eq {t' : TypeRef} (h : t.fullName = t'.fullName)
    (ht : '.' ∉ t.name.toList) (ht' : '.' ∉ t'.name.toList) : t = t' := by
  have hlist : t.containing.toList ++ '.' :: t.name.toList =
      t'.containing.toList ++ '.' :: t'.name.toList := by
    have := congrArg String.toList h
    simpa [TypeRef.fullName, String.toList_append] using this
  have hname : t.name.toList = t'.name.toList := by
    rw [← afterLast_append_cons ht t.containing.toList, hlist, afterLast_append_cons ht']
  rw [hname] at hlist
  obtain ⟨containing, name⟩ := t
  obtain ⟨containing', name'⟩ := t'
  rw [TypeRef.mk.injEq]
  exact ⟨String.toList_injective (List.append_cancel_right hlist), String.toList_injective hname⟩

end Symbols

/-! ### Two trees -/

/-- A hit stands for the symbol of the node at a place: it has the line of that node, and what it
reports is a type that is looked for and has the name and, up to case, the namespace of the
symbol. As far as names are simple, no other type has what it reports for its full name. -/
def StandsForSymbol (types : List TypeRef) (tables : SymbolTables) (root : Node) (p : List ℕ)
    (hit : Hit) : Prop :=
  ∃ n id s t, root.at? p = some n ∧ n.id = some id ∧ tables.nodes.find? id = some s ∧
    hit.line = n.line ∧ t ∈ types ∧ hit.evidence = t.fullName ∧ t.name = s.declaredType ∧
    sameIgnoringCase t.containing.toList s.containingNamespace.toList = true ∧
    ∀ t' : TypeRef, hit.evidence = t'.fullName → '.' ∉ t'.name.toList →
      '.' ∉ s.declaredType.toList → t' = t

section TwoTrees

variable {types : List TypeRef} {tables : SymbolTables} {root root' : Node} {p : List ℕ}
  {hit hit' : Hit}

/-- What is reported at a place: the hit of the node there for the first type that it refers
to. -/
def HitAt (types : List TypeRef) (tables : SymbolTables) (root : Node) (p : List ℕ)
    (hit : Hit) : Prop :=
  ∃ n t, root.at? p = some n ∧ FirstFit (RefersToType (some tables.resolver) · n) types t ∧
    IsTypeHit n t hit

theorem HitAt.standsForSymbol (h : HitAt types tables root p hit)
    (hresolved : ∀ p n, root.at? p = some n → Resolved tables n) :
    StandsForSymbol types tables root p hit := by
  obtain ⟨n, t, hn, ht, text, -, rfl⟩ := h
  obtain ⟨s, hs⟩ := hresolved p n hn (mayReferToType_iff.mpr ht.1.1)
  obtain ⟨hname, hcontaining⟩ := isSymbol_iff_isSymbolOf.mp (hs.refersToType_iff.mp ht.1).2
  obtain ⟨id, hid, hsymbol⟩ := hs
  refine ⟨n, id, s, t, hn, hid, hsymbol, rfl, ht.mem, rfl, hname,
    sameIgnoringCase_iff.mpr hcontaining, ?_⟩
  intro t' hevidence ht' hsimple
  exact (eq_of_fullName_eq hevidence (hname ▸ hsimple) ht').symm

/-- At the same place the same is reported, but for the subject. -/
theorem HitAt.eq_of_sameButTexts (h : HitAt types tables root p hit)
    (h' : HitAt types tables root' p hit') (hsame : root.SameButTexts root')
    (hresolved : ∀ p n, root.at? p = some n → Resolved tables n) :
    hit.line = hit'.line ∧ hit.evidence = hit'.evidence := by
  obtain ⟨n, t, hn, ht, text, -, rfl⟩ := h
  obtain ⟨n', t', hn', ht', text', -, rfl⟩ := h'
  obtain ⟨m, hm, hnm⟩ := hsame.exists_at? hn
  obtain rfl : n' = m := Option.some.inj (hn'.symm.trans hm)
  simp only [← (hresolved p n hn).refersToType_iff hnm] at ht'
  exact ⟨hnm.line_eq, congrArg TypeRef.fullName (ht.unique ht')⟩

end TwoTrees

theorem map_eq_of_forall₂ {α β γ : Type} {R S : α → β → Prop} {key : β → γ} {as : List α}
    {bs cs : List β} (hR : List.Forall₂ R as bs) (hS : List.Forall₂ S as cs)
    (hkey : ∀ a b c, R a b → S a c → key b = key c) : bs.map key = cs.map key := by
  induction hR generalizing cs with
  | nil =>
    cases hS
    rfl
  | cons hb _ ih =>
    cases hS with
    | cons hc hS => rw [List.map_cons, List.map_cons, hkey _ _ _ hb hc, ih hS]

/-- **Symbols come before spelling.** If the tables know what each node refers to that can refer
to a type, then in two trees that are the same but for their texts the references to types are
found at the same places, with the same lines and for the same types, and each is for the type
that the symbol of the node is. -/
theorem resolved_references_ignore_texts (types : List TypeRef) (tables : SymbolTables)
    (u u' : SourceUnit) (hsame : u.root.SameButTexts u'.root)
    (hresolved : ∀ p n, u.root.at? p = some n → mayReferToType n.kind = true →
      ∃ id s, n.id = some id ∧ tables.nodes.find? id = some s) :
    let hits (v : SourceUnit) := typeHits types { unit := v, resolver := some tables.resolver }
    (hits u).map (fun hit => (hit.line, hit.evidence)) =
      (hits u').map (fun hit => (hit.line, hit.evidence)) ∧
    ∃ places : List (List ℕ), places.Pairwise (· < ·) ∧
      ∀ v ∈ [u, u'], List.Forall₂ (StandsForSymbol types tables v.root) places (hits v) := by
  intro hits
  replace hresolved : ∀ p n, u.root.at? p = some n → Resolved tables n := by
    intro p n hn hkind
    obtain ⟨id, s, hid, hs⟩ := hresolved p n hn hkind
    exact ⟨s, id, hid, hs⟩
  have hresolved' : ∀ p n, u'.root.at? p = some n → Resolved tables n := by
    intro p n' hn' hkind
    obtain ⟨n, hn, hn'n⟩ := Node.SameButTexts.exists_at? hsame.symm hn'
    obtain ⟨s, hs⟩ := hresolved p n hn (hn'n.kind_eq ▸ hkind)
    exact ⟨s, hs.of_sameButTexts hn'n.symm⟩
  -- the places are the same, since what matches in one tree matches in the other
  have hplaces := outermostPlaces_of_sameButTexts
    (M := fun n => ∃ t ∈ types, RefersToType (some tables.resolver) t n) hsame
    fun p n n' hn hn' => by
      obtain ⟨m, hm, hnm⟩ := hsame.exists_at? hn
      obtain rfl : n' = m := Option.some.inj (hn'.symm.trans hm)
      simp only [(hresolved p n hn).refersToType_iff hnm]
  have hreports (v : SourceUnit) := reportsOutermost_types types (some tables.resolver) v.root
  have hu : List.Forall₂ (HitAt types tables u.root) _ (hits u) := (hreports u).hit_at
  have hu' : List.Forall₂ (HitAt types tables u'.root) _ (hits u') := (hreports u').hit_at
  rw [← hplaces] at hu'
  refine ⟨map_eq_of_forall₂ hu hu' fun p hit hit' h h' => ?_, _, (hreports u).inOrder, ?_⟩
  · obtain ⟨hline, hevidence⟩ := h.eq_of_sameButTexts h' hsame hresolved
    rw [hline, hevidence]
  · intro v hv
    rcases List.mem_pair.mp hv with rfl | rfl
    · exact hu.imp fun p hit h => h.standsForSymbol hresolved
    · exact hu'.imp fun p hit h => h.standsForSymbol hresolved'

/-- What is known of two nodes: one refers to a type that only has the name of another. -/
def registryTables : SymbolTables where
  nodes := .ofList [(1, { declaredType := "Registry", containingNamespace := "Contoso.Settings" }),
    (2, { declaredType := "Registry", containingNamespace := "microsoft.win32" })]

/-- A unit with some spellings of these nodes. -/
def spelled (first second : String) : SourceUnit where
  path := "a.cs"
  root :=
    { kind := .compilationUnit
      line := 1
      children :=
        [{ kind := .identifier, id := some 1, text := some first, line := 4 },
          { kind := .memberAccess, id := some 2, text := some second, line := 8
            children := [{ kind := .identifier, id := some 1, text := some first, line := 9 }] }] }

/-- Neither does a name mislead where there is a symbol, nor is an alias overlooked. -/
theorem resolved_references_ignore_texts_alias :
    let u := spelled "Registry" "EventLog.Source"
    let u' := spelled "log" "Reg.LocalMachine"
    u.root.SameButTexts u'.root ∧
    (∀ p n, u.root.at? p = some n → mayReferToType n.kind = true →
      ∃ id s, n.id = some id ∧ registryTables.nodes.find? id = some s) ∧
    (typeHits watchedTypes { unit := u', resolver := some registryTables.resolver }).map
      (fun hit => (hit.line, hit.evidence)) = [(8, "Microsoft.Win32.Registry")] := by
  intro u u'
  have hsame : u.root.SameButTexts u'.root := rfl
  have hchecked : ∀ p ∈ u.root.places, (u.root.at? p).all (fun n =>
      !mayReferToType n.kind || (n.id.bind registryTables.nodes.find?).isSome) = true := by
    decide +kernel
  have hresolved : ∀ p n, u.root.at? p = some n → mayReferToType n.kind = true →
      ∃ id s, n.id = some id ∧ registryTables.nodes.find? id = some s := by
    intro p n hn hkind
    have hn := Node.of_all_places hchecked hn
    rw [hkind, Bool.not_true, Bool.false_or, Option.isSome_iff_exists] at hn
    obtain ⟨s, hs⟩ := hn
    obtain ⟨id, hid, hs⟩ := Option.bind_eq_some_iff.mp hs
    exact ⟨id, s, hid, hs⟩
  refine ⟨hsame, hresolved, ?_⟩
  rw [← (resolved_references_ignore_texts watchedTypes registryTables u u' hsame hresolved).1]
  decide +kernel

end Detect

end PlatformAudit
