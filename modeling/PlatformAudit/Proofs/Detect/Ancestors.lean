import Mathlib.Data.List.Flatten
import PlatformAudit.Proofs.Detect.Visit

/-!
# The ancestors of a declaration

The ancestors of a declaration are the least set of names that holds what the
declaration writes down and what the resolver says of its name, and is closed under what
the resolver says of an ancestor (`PlatformAudit.Detect.Ancestor`). The set may be
infinite, since a resolver may answer with ever new names. The search visits it breadth
first and has room for `PlatformAudit.Detect.ancestorLimit` names.

* Whatever it reports is the type that some ancestor refers to, and as long as there is
  room for all ancestors it reports every such type, in breadth-first order
  (`PlatformAudit.Detect.ancestor_evidence_exact`).
* What the declaration writes down is visited before anything that the resolver adds, so
  a resolver only adds to the end of what is reported for a declaration
  (`PlatformAudit.Detect.resolver_only_adds`). This holds whatever the number of
  ancestors: names that the resolver adds never take the room of written ones.
-/

namespace PlatformAudit.Detect

open Text Code

/-! ### Ancestors -/

/-- A resolver says that a type directly extends or implements another. -/
def Extends (resolver : Option Resolver) (name a : String) : Prop :=
  ∃ r, resolver = some r ∧ (r.baseType name = some a ∨ a ∈ r.interfaces name)

/-- The name that a base type writes down. -/
def writtenName (b : Node) : String :=
  String.ofList (trim b.label.toList)

/-- The ancestors of a declaration. -/
inductive Ancestor (resolver : Option Resolver) (decl : Node) : String → Prop
  /-- What the declaration writes down. -/
  | written {b : Node} : b ∈ decl.children → b.kind = .baseType →
      Ancestor resolver decl (writtenName b)
  /-- What the resolver says of the name of the declaration. -/
  | known {a : String} : Extends resolver (declaredName decl) a → Ancestor resolver decl a
  /-- What the resolver says of an ancestor. -/
  | further {a b : String} : Ancestor resolver decl a → Extends resolver a b →
      Ancestor resolver decl b

variable {resolver : Option Resolver} {decl : Node} {a : String}

theorem mem_parents_iff {name : String} : a ∈ parents resolver name ↔ Extends resolver name a := by
  cases resolver with
  | none => simp [parents, Extends]
  | some r => simp [parents, Extends]

theorem mem_firstAncestors_iff : a ∈ firstAncestors resolver decl ↔
    (∃ b ∈ decl.children, b.kind = .baseType ∧ writtenName b = a) ∨
      Extends resolver (declaredName decl) a := by
  simp [firstAncestors, Node.childrenOf, mem_parents_iff, and_assoc, writtenName]

/-- The ancestors are what can be reached from the names with which the search begins. -/
theorem ancestor_iff_reached : Ancestor resolver decl a ↔
    Reached (parents resolver) (firstAncestors resolver decl) a := by
  constructor
  · intro h
    induction h with
    | written hb hkind =>
      exact reached_of_mem (mem_firstAncestors_iff.mpr (.inl ⟨_, hb, hkind, rfl⟩))
    | known h => exact reached_of_mem (mem_firstAncestors_iff.mpr (.inr h))
    | further _ h ih => exact ih.tail (mem_parents_iff.mpr h)
  · intro h
    refine h.mem_of_closed (s := {a | Ancestor resolver decl a}) (fun x hx => ?_)
      fun b hb c hc => hb.further (mem_parents_iff.mp hc)
    rcases mem_firstAncestors_iff.mp hx with ⟨b, hb, hkind, rfl⟩ | hx
    · exact .written hb hkind
    · exact .known hx

/-- Names that hold the first ancestors and are closed bound the number of ancestors. -/
theorem encard_ancestors_le (names : List String)
    (hfirst : ∀ a ∈ firstAncestors resolver decl, a ∈ names)
    (hclosed : ∀ a ∈ names, ∀ b ∈ parents resolver a, b ∈ names) :
    {a | Ancestor resolver decl a}.encard ≤ names.length := by
  have hsub : {a | Ancestor resolver decl a} ⊆ (names.toFinset : Set String) := fun a ha =>
    List.mem_toFinset.mpr <|
      (ancestor_iff_reached.mp ha).mem_of_closed (s := {a | a ∈ names}) hfirst hclosed
  refine (Set.encard_le_encard hsub).trans ?_
  rw [Set.encard_coe_eq_coe_finsetCard]
  exact_mod_cast List.toFinset_card_le names

theorem ancestor_of_mem_ancestorsOf (h : a ∈ ancestorsOf resolver decl) :
    Ancestor resolver decl a :=
  ancestor_iff_reached.mpr (reached_of_mem_visit _ (fun _ hx => reached_of_mem hx) h)

/-- As long as there is room, all ancestors are visited, in the order of the traversal by
rounds. -/
theorem ancestorsOf_eq_met {n : ℕ}
    (hfew : {a | Ancestor resolver decl a}.encard ≤ ancestorLimit) (h : ancestorLimit ≤ n) :
    let met := (traverse (parents resolver) (firstAncestors resolver decl) n).met
    ancestorsOf resolver decl = met ∧ ∀ a, a ∈ met ↔ Ancestor resolver decl a := by
  simp only [ancestor_iff_reached] at hfew ⊢
  exact visit_eq_met _ _ hfew h

/-! ### What is reported -/

variable (types : List String)

/-- The types that are reported for a declaration. -/
def evidenceAt (resolver : Option Resolver) (decl : Node) : List String :=
  ((ancestorsOf resolver decl).filterMap (ancestorNamed? types)).eraseDups

theorem ancestorHitsAt_eq (resolver : Option Resolver) (decl : Node) :
    ancestorHitsAt types resolver decl = (evidenceAt types resolver decl).map fun t =>
      { line := decl.line, subject := declaredName decl, evidence := t } :=
  rfl

variable {types} {t : String}

theorem mem_evidenceAt_iff : t ∈ evidenceAt types resolver decl ↔
    ∃ a ∈ ancestorsOf resolver decl, ancestorNamed? types a = some t := by
  rw [evidenceAt, List.mem_eraseDups, List.mem_filterMap]

/-- As long as there is room, the types reported are those that ancestors refer to. -/
theorem mem_evidenceAt_iff_of_few (hfew : {a | Ancestor resolver decl a}.encard ≤ ancestorLimit) :
    t ∈ evidenceAt types resolver decl ↔
      ∃ a, Ancestor resolver decl a ∧ ancestorNamed? types a = some t := by
  obtain ⟨hall, hmem⟩ := ancestorsOf_eq_met hfew (Nat.le_refl _)
  rw [mem_evidenceAt_iff, hall]
  exact exists_congr fun a => and_congr_left' (hmem a)

/-- **What is reported for a declaration.** Every hit has the line and the name of the
declaration. The types reported are configured, none is reported twice, and each is the one that
some ancestor refers to. As long as there are no more than 256 ancestors, all types that ancestors
refer to are reported, in the order in which a breadth-first traversal meets the ancestors. -/
theorem ancestor_evidence_exact (types : List String) (resolver : Option Resolver) (decl : Node) :
    ∃ evidence : List String,
      ancestorHitsAt types resolver decl = evidence.map (fun t =>
        { line := decl.line, subject := declaredName decl, evidence := t }) ∧
      evidence.Nodup ∧
      (∀ t ∈ evidence, t ∈ types ∧
        ∃ a, Ancestor resolver decl a ∧ ancestorNamed? types a = some t) ∧
      ({a | Ancestor resolver decl a}.encard ≤ 256 →
        (∀ t, t ∈ evidence ↔
          ∃ a, Ancestor resolver decl a ∧ ancestorNamed? types a = some t) ∧
        ∀ n, 256 ≤ n →
          let met := (traverse (parents resolver) (firstAncestors resolver decl) n).met
          (∀ a, a ∈ met ↔ Ancestor resolver decl a) ∧
            evidence = (met.filterMap (ancestorNamed? types)).eraseDups) := by
  refine ⟨evidenceAt types resolver decl, ancestorHitsAt_eq types resolver decl,
    nodup_eraseDups _, fun t ht => ?_, fun hfew => ⟨fun t => mem_evidenceAt_iff_of_few hfew, ?_⟩⟩
  · obtain ⟨a, ha, hnamed⟩ := mem_evidenceAt_iff.mp ht
    exact ⟨List.mem_of_find?_eq_some hnamed, a, ancestor_of_mem_ancestorsOf ha, hnamed⟩
  · intro n hn met
    obtain ⟨hall, hmem⟩ := ancestorsOf_eq_met hfew hn
    refine ⟨hmem, ?_⟩
    rw [evidenceAt, hall]

/-- Two types that extend each other, of which one implements a module interface. -/
def ringResolver : Resolver where
  resolve _ := none
  baseType name := if name = "Ring.A" then some "Ring.B" else some "Ring.A"
  interfaces name := if name = "Ring.B" then ["System.Web.IHttpModule", "System.IDisposable"] else []

/-- A class that writes down one ancestor. -/
def ringMember : Node where
  kind := .classDecl
  text := some " Member"
  line := 10
  children := [{ kind := .baseType, text := some "IDisposable ", line := 10 }]

/-- With a ring among the ancestors the search reports what it meets, each type once. -/
theorem ancestor_evidence_exact_ring :
    {a | Ancestor (some ringResolver) ringMember a}.encard ≤ 256 ∧
      ∃ evidence : List String,
        evidence = ["System.IDisposable", "System.Web.IHttpModule"] ∧
        ancestorHitsAt ["System.Web.IHttpModule", "System.IDisposable"] (some ringResolver)
          ringMember = evidence.map fun t => { line := 10, subject := "Member", evidence := t } := by
  have hfew : {a | Ancestor (some ringResolver) ringMember a}.encard ≤ 256 := by
    refine (encard_ancestors_le ["IDisposable", "Ring.A", "Ring.B",
      "System.Web.IHttpModule", "System.IDisposable"] ?_ ?_).trans ?_
    · decide +kernel
    · decide +kernel
    · exact_mod_cast (by decide : 5 ≤ 256)
  obtain ⟨evidence, hhits, -, -, hall⟩ := ancestor_evidence_exact
    ["System.Web.IHttpModule", "System.IDisposable"] (some ringResolver) ringMember
  refine ⟨hfew, evidence, ?_, hhits⟩
  rw [((hall hfew).2 256 (Nat.le_refl _)).2]
  decide +kernel

/-! ### With and without a resolver -/

/-- What is written on a declaration is visited first. -/
theorem ancestorsOf_none_isPrefix (decl : Node) (r : Resolver) :
    ancestorsOf none decl <+: ancestorsOf (some r) decl := by
  have hfirst : firstAncestors none decl = (decl.childrenOf .baseType).map writtenName :=
    List.append_nil _
  rw [ancestorsOf, hfirst]
  exact visit_stop_isPrefix _ _ _ _ _

theorem ancestorHitsAt_none_isPrefix (types : List String) (decl : Node) (r : Resolver) :
    ancestorHitsAt types none decl <+: ancestorHitsAt types (some r) decl :=
  (isPrefix_eraseDups ((ancestorsOf_none_isPrefix decl r).filterMap _)).map _

/-- **A resolver only adds.** For each declaration the hits without a resolver are the first ones
with it, so the hits in a unit without a resolver are among those with it, in the same order. -/
theorem resolver_only_adds (types : List String) (u : SourceUnit) (r : Resolver) :
    (∀ decl : Node, ancestorHitsAt types none decl <+: ancestorHitsAt types (some r) decl) ∧
      (ancestorHits types { unit := u }).Sublist
        (ancestorHits types { unit := u, resolver := some r }) :=
  ⟨fun decl => ancestorHitsAt_none_isPrefix types decl r,
    List.Sublist.flatMap_right _ fun decl _ =>
      (ancestorHitsAt_none_isPrefix types decl r).sublist⟩

end PlatformAudit.Detect
