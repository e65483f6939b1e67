import Mathlib.Data.List.Basic
import PlatformAudit.Code.Tree

/-!
# Places in a tree

Equal nodes may stand in a tree more than once, so what is said of a tree is not said of
its nodes but of the **places** where they stand. A place tells, from the root down,
which child to go to (`PlatformAudit.Code.Node.at?`). A place lies above another if the
way to the other leads through it, which is to say that it is a proper beginning of it.

The places of a tree are listed in the order in which a reader of the text meets the
nodes (`PlatformAudit.Code.Node.places`). This is the lexicographic order of places:
what lies above comes first, and of two children the one with the smaller number
(`PlatformAudit.Code.Node.pairwise_places`).
-/

namespace PlatformAudit.Code

/-- A place lies above another if the way to the other leads through it. -/
def Above (q p : List ℕ) : Prop :=
  q <+: p ∧ q ≠ p

theorem not_above_nil (q : List ℕ) : ¬Above q [] :=
  fun h => h.2 (List.prefix_nil.mp h.1)

theorem nil_above_cons (i : ℕ) (p : List ℕ) : Above [] (i :: p) :=
  ⟨List.nil_prefix, (List.cons_ne_nil i p).symm⟩

theorem cons_above_cons_iff {i j : ℕ} {q p : List ℕ} :
    Above (j :: q) (i :: p) ↔ j = i ∧ Above q p := by
  rw [Above, Above, List.cons_prefix_cons, Ne, List.cons.injEq]
  constructor
  · rintro ⟨⟨rfl, hq⟩, hne⟩
    exact ⟨rfl, hq, fun h => hne ⟨rfl, h⟩⟩
  · rintro ⟨rfl, hq, hne⟩
    exact ⟨⟨rfl, hq⟩, fun h => hne h.2⟩

namespace Node

/-- What holds of a node as soon as it holds of its children holds of every tree. -/
theorem induction_on_children {P : Node → Prop}
    (h : ∀ n : Node, (∀ c ∈ n.children, P c) → P n) (n : Node) : P n :=
  Node.rec (fun _ _ _ _ _ hchildren => h _ hchildren) (List.forall_mem_nil P)
    (fun _ _ hhead htail => List.forall_mem_cons.mpr ⟨hhead, htail⟩) n

/-! ### The node at a place -/

/-- The node at a place, if the tree has one there. -/
def at? (n : Node) : List ℕ → Option Node
  | [] => some n
  | i :: p => n.children[i]?.bind fun c => c.at? p

variable {n m c : Node} {i : ℕ} {p : List ℕ}

@[simp] theorem at?_nil (n : Node) : n.at? [] = some n := rfl

theorem at?_cons_eq_some_iff :
    n.at? (i :: p) = some m ↔ ∃ c, n.children[i]? = some c ∧ c.at? p = some m :=
  Option.bind_eq_some_iff

theorem at?_cons_of_child (h : n.children[i]? = some c) (p : List ℕ) :
    n.at? (i :: p) = c.at? p := by
  rw [at?, h, Option.bind_some]

/-! ### All places -/

mutual

/-- The places of a tree, in the order of the text. -/
def places : Node → List (List ℕ)
  | ⟨_, _, _, _, children⟩ => [] :: placesFrom 0 children

/-- The places below a node in some of its children, which are numbered from `i` on. -/
def placesFrom (i : ℕ) : List Node → List (List ℕ)
  | [] => []
  | n :: ns => n.places.map (i :: ·) ++ placesFrom (i + 1) ns

end

theorem placesFrom_eq (i : ℕ) (ns : List Node) :
    placesFrom i ns = (ns.zipIdx i).flatMap fun c => c.1.places.map (c.2 :: ·) := by
  induction ns generalizing i with
  | nil => rfl
  | cons n ns ih => rw [placesFrom, ih, List.zipIdx_cons, List.flatMap_cons]

theorem places_eq (n : Node) :
    n.places = [] :: n.children.zipIdx.flatMap fun c => c.1.places.map (c.2 :: ·) := by
  obtain ⟨kind, id, text, line, children⟩ := n
  rw [places, placesFrom_eq]

theorem mem_of_mem_zipIdx {c : Node × ℕ} (h : c ∈ n.children.zipIdx) : c.1 ∈ n.children :=
  List.mem_of_getElem? (List.mem_zipIdx_iff_getElem?.mp h)

/-- **The places listed are those of the tree.** -/
theorem mem_places_iff : p ∈ n.places ↔ ∃ m, n.at? p = some m := by
  induction n using induction_on_children generalizing p with
  | h n ih =>
    rw [places_eq]
    cases p with
    | nil => simp
    | cons i p =>
      simp only [List.mem_cons, reduceCtorEq, false_or, List.mem_flatMap, List.mem_map,
        List.cons.injEq, at?_cons_eq_some_iff]
      constructor
      · rintro ⟨c, hc, q, hq, rfl, rfl⟩
        obtain ⟨m, hm⟩ := (ih c.1 (mem_of_mem_zipIdx hc)).mp hq
        exact ⟨m, c.1, List.mem_zipIdx_iff_getElem?.mp hc, hm⟩
      · rintro ⟨m, c, hc, hm⟩
        refine ⟨(c, i), List.mem_zipIdx_iff_getElem?.mpr hc, p, ?_, rfl, rfl⟩
        exact (ih c (List.mem_of_getElem? hc)).mpr ⟨m, hm⟩

theorem cons_mem_places_iff :
    i :: p ∈ n.places ↔ ∃ c, n.children[i]? = some c ∧ p ∈ c.places := by
  simp only [mem_places_iff, at?_cons_eq_some_iff]
  constructor
  · rintro ⟨m, c, hc, hm⟩
    exact ⟨c, hc, m, hm⟩
  · rintro ⟨c, hc, m, hm⟩
    exact ⟨m, c, hc, hm⟩

/-- What is checked place by place holds of all nodes. -/
theorem of_all_places {P : Node → Bool} (h : ∀ p ∈ n.places, (n.at? p).all P = true)
    (hm : n.at? p = some m) : P m = true := by
  have hp := h p (mem_places_iff.mpr ⟨m, hm⟩)
  rwa [hm, Option.all_some] at hp

theorem pairwise_zipIdx {α : Type} (items : List α) (i : ℕ) :
    (items.zipIdx i).Pairwise fun a b => a.2 < b.2 := by
  induction items generalizing i with
  | nil => exact List.Pairwise.nil
  | cons a items ih =>
    rw [List.zipIdx_cons]
    exact List.pairwise_cons.mpr ⟨fun b hb => List.le_snd_of_mem_zipIdx hb, ih (i + 1)⟩

/-- The root and then places in one child after the other are in lexicographic order if the places
in each child are. -/
theorem pairwise_nil_cons {α : Type} (items : List α) (below : α → List (List ℕ))
    (h : ∀ a ∈ items, (below a).Pairwise (· < ·)) :
    ([] :: items.zipIdx.flatMap fun a => (below a.1).map (a.2 :: ·)).Pairwise (· < ·) := by
  refine List.pairwise_cons.mpr ⟨fun p hp => ?_, List.pairwise_flatMap.mpr ⟨fun a ha => ?_, ?_⟩⟩
  · obtain ⟨a, -, hp⟩ := List.mem_flatMap.mp hp
    obtain ⟨q, -, rfl⟩ := List.mem_map.mp hp
    exact List.nil_lt_cons a.2 q
  · rw [List.pairwise_map]
    refine (h a.1 (List.mem_of_getElem? (List.mem_zipIdx_iff_getElem?.mp ha))).imp fun hpq => ?_
    exact List.cons_lt_cons_iff.mpr (.inr ⟨rfl, hpq⟩)
  · -- places in different children are told apart by their first number
    refine (pairwise_zipIdx items 0).imp fun hab p hp q hq => ?_
    obtain ⟨p, -, rfl⟩ := List.mem_map.mp hp
    obtain ⟨q, -, rfl⟩ := List.mem_map.mp hq
    exact List.cons_lt_cons_iff.mpr (.inl hab)

/-- **The places are listed in lexicographic order**, none of them twice. -/
theorem pairwise_places (n : Node) : n.places.Pairwise (· < ·) := by
  induction n using induction_on_children with
  | h n ih =>
    rw [places_eq]
    exact pairwise_nil_cons n.children places ih

end Node

end PlatformAudit.Code
