import Mathlib.Data.List.Forall2
import Mathlib.Data.Option.Basic
import PlatformAudit.Detect.Hit
import PlatformAudit.Proofs.Code.Place

/-!
# Searches that stop below what they find

`PlatformAudit.Detect.collect` walks through a tree, and where it finds something it
passes over what lies below. So it finds the **outermost** nodes of a kind and no
others: those that match and have nothing that matches above them
(`PlatformAudit.Detect.Outermost`). The walk keeps a list and knows nothing of what lies
above; that the two come to the same is `PlatformAudit.Detect.collect_places`, which
also says in which order the nodes are found.

A detector looks its nodes up in a table and reports the first entry that fits. What
it reports is described by `PlatformAudit.Detect.ReportsOutermost`, without a walk.
-/

namespace PlatformAudit.Detect

open Code

/-! ### The walk -/

section Walk

variable {α : Type} (f : Node → Option α) {n : Node} {a : α}

theorem enter_collector_of_some (h : f n = some a) (depth : ℕ) (found : List α) :
    (collector f).enter n depth found = (false, found ++ [a]) := by
  simp [collector, h]

theorem enter_collector_of_none (h : f n = none) (depth : ℕ) (found : List α) :
    (collector f).enter n depth found = (true, found) := by
  simp [collector, h]

/-- Where something is found the walk turns back. -/
theorem walk_collector_of_some (h : f n = some a) (depth : ℕ) (found : List α) :
    n.walk (collector f) depth found = found ++ [a] := by
  obtain ⟨kind, id, text, line, children⟩ := n
  rw [Node.walk, enter_collector_of_some f h]
  rfl

/-- Where nothing is found the walk goes on to the children. -/
theorem walk_collector_of_none (h : f n = none) (depth : ℕ) (found : List α) :
    n.walk (collector f) depth found =
      Node.walkAll (collector f) (depth + 1) n.children found := by
  obtain ⟨kind, id, text, line, children⟩ := n
  rw [Node.walk, enter_collector_of_none f h]
  rfl

/-- Trees one after the other: what is found in them is found one after the other. -/
theorem walkAll_collector {ns : List Node}
    (h : ∀ n ∈ ns, ∀ depth found, n.walk (collector f) depth found = found ++ collect f n)
    (depth : ℕ) (found : List α) :
    Node.walkAll (collector f) depth ns found = found ++ ns.flatMap (collect f) := by
  induction ns generalizing found with
  | nil => rw [Node.walkAll, List.flatMap_nil, List.append_nil]
  | cons n ns ih =>
    obtain ⟨hn, hns⟩ := List.forall_mem_cons.mp h
    rw [Node.walkAll, hn, ih hns, List.flatMap_cons, List.append_assoc]

/-- **What was found before a walk has no influence on what it finds.** -/
theorem walk_collector (n : Node) (depth : ℕ) (found : List α) :
    n.walk (collector f) depth found = found ++ collect f n := by
  induction n using Node.induction_on_children generalizing depth found with
  | h n ih =>
    rw [collect]
    cases hn : f n with
    | some a => rw [walk_collector_of_some f hn, walk_collector_of_some f hn, List.nil_append]
    | none =>
      rw [walk_collector_of_none f hn, walk_collector_of_none f hn, walkAll_collector f ih,
        walkAll_collector f ih, List.nil_append]

theorem collect_of_some (h : f n = some a) : collect f n = [a] := by
  rw [collect, walk_collector_of_some f h, List.nil_append]

theorem collect_of_none (h : f n = none) : collect f n = n.children.flatMap (collect f) := by
  rw [collect, walk_collector_of_none f h, walkAll_collector f fun n _ => walk_collector f n,
    List.nil_append]

end Walk

/-! ### Outermost places -/

/-- A place is outermost if the node there satisfies `M` and no node above does. -/
def Outermost (M : Node → Prop) (root : Node) (p : List ℕ) : Prop :=
  (∃ n, root.at? p = some n ∧ M n) ∧ ∀ q m, Above q p → root.at? q = some m → ¬M m

section Outermost

variable {M : Node → Prop} {root : Node} {p q : List ℕ}

theorem outermost_nil_iff : Outermost M root [] ↔ M root := by
  constructor
  · rintro ⟨⟨n, hn, hM⟩, -⟩
    cases hn
    exact hM
  · exact fun h => ⟨⟨root, rfl, h⟩, fun q _ hq => absurd hq (not_above_nil q)⟩

/-- A place in a child is outermost if it is in the child and the root does not match. -/
theorem outermost_cons_iff {i : ℕ} : Outermost M root (i :: p) ↔
    ¬M root ∧ ∃ c, root.children[i]? = some c ∧ Outermost M c p := by
  constructor
  · rintro ⟨⟨n, hn, hM⟩, habove⟩
    obtain ⟨c, hc, hn⟩ := Node.at?_cons_eq_some_iff.mp hn
    refine ⟨habove [] root (nil_above_cons i p) rfl, c, hc, ⟨n, hn, hM⟩, fun q m hq hm => ?_⟩
    refine habove (i :: q) m (cons_above_cons_iff.mpr ⟨rfl, hq⟩) ?_
    rwa [Node.at?_cons_of_child hc]
  · rintro ⟨hroot, c, hc, ⟨n, hn, hM⟩, habove⟩
    refine ⟨⟨n, Node.at?_cons_eq_some_iff.mpr ⟨c, hc, hn⟩, hM⟩, fun q m hq hm => ?_⟩
    cases q with
    | nil =>
      cases hm
      exact hroot
    | cons j q =>
      obtain ⟨rfl, hbelow⟩ := cons_above_cons_iff.mp hq
      rw [Node.at?_cons_of_child hc] at hm
      exact habove q m hbelow hm

/-- **Every match is outermost or lies below one that is.** -/
theorem exists_outermost {n : Node} (h : root.at? p = some n) (hM : M n) :
    ∃ q, q <+: p ∧ Outermost M root q := by
  induction p generalizing root with
  | nil =>
    cases h
    exact ⟨[], List.nil_prefix, outermost_nil_iff.mpr hM⟩
  | cons i p ih =>
    by_cases hroot : M root
    · exact ⟨[], List.nil_prefix, outermost_nil_iff.mpr hroot⟩
    · obtain ⟨c, hc, h⟩ := Node.at?_cons_eq_some_iff.mp h
      obtain ⟨q, hqp, hq⟩ := ih h
      exact ⟨i :: q, List.cons_prefix_cons.mpr ⟨rfl, hqp⟩,
        outermost_cons_iff.mpr ⟨hroot, c, hc, hq⟩⟩

/-- **No outermost place lies below another.** -/
theorem Outermost.not_above (hp : Outermost M root p) (hq : Outermost M root q) : ¬Above p q := by
  intro hpq
  obtain ⟨⟨n, hn, hM⟩, -⟩ := hp
  exact hq.2 p n hpq hn hM

variable (M root)

open Classical in
/-- The outermost places of a tree, in the order of the text. -/
noncomputable def outermostPlaces : List (List ℕ) :=
  root.places.filter fun p => Outermost M root p

variable {M root}

theorem mem_outermostPlaces_iff : p ∈ outermostPlaces M root ↔ Outermost M root p := by
  classical
  rw [outermostPlaces, List.mem_filter, decide_eq_true_iff]
  refine and_iff_right_of_imp fun h => ?_
  obtain ⟨⟨n, hn, -⟩, -⟩ := h
  exact Node.mem_places_iff.mpr ⟨n, hn⟩

theorem pairwise_outermostPlaces : (outermostPlaces M root).Pairwise (· < ·) :=
  root.pairwise_places.filter _

theorem outermostPlaces_of_match (h : M root) : outermostPlaces M root = [[]] := by
  classical
  rw [outermostPlaces, Node.places_eq,
    List.filter_cons_of_pos (by rwa [decide_eq_true_iff, outermost_nil_iff]),
    List.filter_eq_nil_iff.mpr]
  intro p hp
  obtain ⟨c, -, hp⟩ := List.mem_flatMap.mp hp
  obtain ⟨q, -, rfl⟩ := List.mem_map.mp hp
  rw [decide_eq_true_iff, outermost_cons_iff]
  exact fun hout => hout.1 h

theorem outermostPlaces_of_no_match (h : ¬M root) :
    outermostPlaces M root =
      root.children.zipIdx.flatMap fun c => (outermostPlaces M c.1).map (c.2 :: ·) := by
  classical
  have hroot : ¬Outermost M root [] := fun hout => h (outermost_nil_iff.mp hout)
  rw [outermostPlaces, Node.places_eq, List.filter_cons_of_neg (by rwa [decide_eq_true_iff]),
    List.filter_flatMap]
  refine List.flatMap_congr fun c hc => ?_
  have hchild := List.mem_zipIdx_iff_getElem?.mp hc
  rw [List.filter_map, outermostPlaces]
  refine congrArg (List.map _) (List.filter_congr fun p _ => ?_)
  rw [Function.comp_apply, decide_eq_decide, outermost_cons_iff, and_iff_right h, hchild]
  simp

end Outermost

/-- **A search finds what matches at the outermost places**, in their order, one thing at
each. -/
theorem collect_places {α : Type} (f : Node → Option α) (root : Node) :
    (outermostPlaces (fun n => (f n).isSome) root).map (fun p => (root.at? p).bind f) =
      (collect f root).map some := by
  induction root using Node.induction_on_children with
  | h root ih =>
    cases hroot : f root with
    | some a =>
      rw [outermostPlaces_of_match (by rw [hroot]; rfl), collect_of_some f hroot]
      simp [hroot]
    | none =>
      rw [outermostPlaces_of_no_match (by simp [hroot]), collect_of_none f hroot,
        List.map_flatMap, List.map_flatMap]
      conv_rhs => rw [← List.zipIdx_map_fst 0 root.children, List.flatMap_map]
      refine List.flatMap_congr fun c hc => ?_
      rw [← ih c.1 (Node.mem_of_mem_zipIdx hc), List.map_map]
      refine List.map_congr_left fun p _ => ?_
      rw [Function.comp_apply, Node.at?_cons_of_child (List.mem_zipIdx_iff_getElem?.mp hc)]

theorem mem_collect_iff {α : Type} {f : Node → Option α} {root : Node} {a : α} :
    a ∈ collect f root ↔
      ∃ p n, Outermost (fun n => (f n).isSome) root p ∧ root.at? p = some n ∧ f n = some a := by
  rw [← List.mem_map_of_injective (Option.some_injective α), ← collect_places, List.mem_map]
  constructor
  · rintro ⟨p, hp, hfound⟩
    obtain ⟨n, hn, ha⟩ := Option.bind_eq_some_iff.mp hfound
    exact ⟨p, n, mem_outermostPlaces_iff.mp hp, hn, ha⟩
  · rintro ⟨p, n, hp, hn, ha⟩
    exact ⟨p, mem_outermostPlaces_iff.mpr hp, Option.bind_eq_some_iff.mpr ⟨n, hn, ha⟩⟩

/-! ### Searches by a table -/

section Tables

variable {ε : Type}

/-- An entry is the first of a table that fits. -/
def FirstFit (Fits : ε → Prop) (table : List ε) (e : ε) : Prop :=
  Fits e ∧ ∃ before after, table = before ++ e :: after ∧ ∀ b ∈ before, ¬Fits b

variable {Fits : ε → Prop} {table : List ε} {e : ε}

theorem find?_eq_some_iff_firstFit {p : ε → Bool} :
    table.find? p = some e ↔ FirstFit (p · = true) table e := by
  simp [FirstFit, List.find?_eq_some_iff_append]

theorem FirstFit.mem (h : FirstFit Fits table e) : e ∈ table := by
  obtain ⟨-, before, after, rfl, -⟩ := h
  exact List.mem_append_right _ (List.mem_cons_self ..)

theorem FirstFit.unique {e' : ε} (h : FirstFit Fits table e) (h' : FirstFit Fits table e') :
    e = e' := by
  classical
  have hfound {a : ε} (ha : FirstFit Fits table a) :
      table.find? (fun a => decide (Fits a)) = some a := by
    rw [find?_eq_some_iff_firstFit]
    simpa only [decide_eq_true_iff] using ha
  exact Option.some.inj ((hfound h).symm.trans (hfound h'))

theorem exists_firstFit_iff : (∃ e, FirstFit Fits table e) ↔ ∃ e ∈ table, Fits e := by
  classical
  constructor
  · rintro ⟨e, he⟩
    exact ⟨e, he.mem, he.1⟩
  · rintro ⟨e, hmem, he⟩
    have hfound : (table.find? fun e => decide (Fits e)).isSome :=
      List.find?_isSome.mpr ⟨e, hmem, decide_eq_true he⟩
    obtain ⟨first, hfirst⟩ := Option.isSome_iff_exists.mp hfound
    refine ⟨first, ?_⟩
    simpa only [decide_eq_true_iff] using find?_eq_some_iff_firstFit.mp hfirst

/-- **What a search by a table reports.** There is one hit for each outermost place with a node
that an entry fits, in the order of the text, and it is made of that node and the first entry
that fits. So no hit lies below another, and whatever an entry fits is a hit or lies below
one. -/
structure ReportsOutermost (table : List ε) (Fits : ε → Node → Prop)
    (IsHit : Node → ε → Hit → Prop) (root : Node) (hits : List Hit) (places : List (List ℕ)) :
    Prop where
  inOrder : places.Pairwise (· < ·)
  mem_iff : ∀ p, p ∈ places ↔ Outermost (fun n => ∃ e ∈ table, Fits e n) root p
  hit_at : List.Forall₂ (fun p hit => ∃ n e, root.at? p = some n ∧
    FirstFit (Fits · n) table e ∧ IsHit n e hit) places hits
  not_above : ∀ p ∈ places, ∀ q ∈ places, ¬Above p q
  covers : ∀ p n, root.at? p = some n → (∃ e ∈ table, Fits e n) → ∃ q ∈ places, q <+: p

section Search

variable {Fits : ε → Node → Prop} {IsHit : Node → ε → Hit → Prop} {f : Node → Option Hit}

/-- A search by a table finds something at the nodes that an entry fits. -/
theorem isSome_iff_exists_fits
    (hf : ∀ n hit, f n = some hit ↔ ∃ e, FirstFit (Fits · n) table e ∧ IsHit n e hit)
    (hhit : ∀ n e, Fits e n → ∃ hit, IsHit n e hit) (n : Node) :
    (f n).isSome = true ↔ ∃ e ∈ table, Fits e n := by
  rw [Option.isSome_iff_exists, ← exists_firstFit_iff]
  constructor
  · rintro ⟨hit, hhit⟩
    obtain ⟨e, he, -⟩ := (hf n hit).mp hhit
    exact ⟨e, he⟩
  · rintro ⟨e, he⟩
    obtain ⟨hit, hhit⟩ := hhit n e he.1
    exact ⟨hit, (hf n hit).mpr ⟨e, he, hhit⟩⟩

/-- If a search finds at each node the first entry that fits it, this is what it reports. -/
theorem reportsOutermost_collect
    (hf : ∀ n hit, f n = some hit ↔ ∃ e, FirstFit (Fits · n) table e ∧ IsHit n e hit)
    (hhit : ∀ n e, Fits e n → ∃ hit, IsHit n e hit) (root : Node) :
    ReportsOutermost table Fits IsHit root (collect f root)
      (outermostPlaces (fun n => ∃ e ∈ table, Fits e n) root) := by
  have hmatch : (fun n => (f n).isSome = true) = fun n => ∃ e ∈ table, Fits e n :=
    funext fun n => propext (isSome_iff_exists_fits hf hhit n)
  have hplaces := collect_places f root
  rw [hmatch] at hplaces
  refine ⟨pairwise_outermostPlaces, fun p => mem_outermostPlaces_iff, ?_, ?_, ?_⟩
  · rw [← List.forall₂_eq_eq_eq, List.forall₂_map_left_iff, List.forall₂_map_right_iff] at hplaces
    refine hplaces.imp fun p hit hhit => ?_
    obtain ⟨n, hn, hhit⟩ := Option.bind_eq_some_iff.mp hhit
    obtain ⟨e, he, hmade⟩ := (hf n hit).mp hhit
    exact ⟨n, e, hn, he, hmade⟩
  · intro p hp q hq
    exact (mem_outermostPlaces_iff.mp hp).not_above (mem_outermostPlaces_iff.mp hq)
  · intro p n hn hfits
    obtain ⟨q, hqp, hq⟩ := exists_outermost (M := fun n => ∃ e ∈ table, Fits e n) hn hfits
    exact ⟨q, mem_outermostPlaces_iff.mpr hq, hqp⟩

end Search

end Tables

end PlatformAudit.Detect
