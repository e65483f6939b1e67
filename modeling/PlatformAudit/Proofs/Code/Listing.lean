import Mathlib.Data.List.Forall2
import Mathlib.Data.Option.Basic
import PlatformAudit.Proofs.Code.Place

/-!
# Nodes in the order of the text

Rules go through all nodes of a tree, or through all nodes and the children of each.
The first is done with a stack (`PlatformAudit.Code.Node.descendants`), and what comes
off the stack is what stands at the places of the tree, one after the other.

Since equal nodes may stand in a tree more than once, a list of what was found does not
tell where it was found. So a list is described by its **keys**: it has one item for each
key for which there is something, in the order of the keys
(`PlatformAudit.Code.ListedBy`). The nodes of a tree are listed by their places
(`PlatformAudit.Code.Node.listedBy_places`), and the children by the place of the parent
and their number (`PlatformAudit.Code.Node.listedBy_children`). What a rule picks out of a
list that is described in this way is described in this way again.
-/

namespace PlatformAudit.Code

/-! ### Lists by key -/

section Listing

variable {κ ι α β : Type} {before : κ → κ → Prop} {get : κ → Option α} {items : List α}
  {keys : List κ}

/-- **A list is listed by its keys** if it holds what `get` gives, once for each key for which
`get` gives something, in the order of the keys. -/
structure ListedBy (before : κ → κ → Prop) (get : κ → Option α) (items : List α)
    (keys : List κ) : Prop where
  inOrder : keys.Pairwise before
  mem_of_get : ∀ k a, get k = some a → k ∈ keys
  map_get : keys.map get = items.map some

namespace ListedBy

/-- Every key has an item and every item has a key. -/
theorem forall₂ (h : ListedBy before get items keys) :
    List.Forall₂ (fun k a => get k = some a) keys items := by
  have hmap := h.map_get
  rwa [← List.forall₂_eq_eq_eq, List.forall₂_map_left_iff, List.forall₂_map_right_iff] at hmap

theorem exists_of_mem (h : ListedBy before get items keys) {k : κ} (hk : k ∈ keys) :
    ∃ a ∈ items, get k = some a := by
  have hget : get k ∈ items.map some := h.map_get ▸ List.mem_map_of_mem hk
  obtain ⟨a, ha, hk⟩ := List.mem_map.mp hget
  exact ⟨a, ha, hk.symm⟩

theorem mem_iff (h : ListedBy before get items keys) {k : κ} :
    k ∈ keys ↔ ∃ a, get k = some a := by
  constructor
  · intro hk
    obtain ⟨a, -, ha⟩ := h.exists_of_mem hk
    exact ⟨a, ha⟩
  · rintro ⟨a, ha⟩
    exact h.mem_of_get k a ha

/-- The items are what `get` gives for some key. -/
theorem mem_items_iff (h : ListedBy before get items keys) {a : α} :
    a ∈ items ↔ ∃ k, get k = some a := by
  rw [← List.mem_map_of_injective (Option.some_injective α), ← h.map_get, List.mem_map]
  constructor
  · rintro ⟨k, -, hk⟩
    exact ⟨k, hk⟩
  · rintro ⟨k, hk⟩
    exact ⟨k, h.mem_of_get k a hk, hk⟩

/-- **What is picked out of a list is listed by the keys of what is picked.** -/
theorem filterMap (h : ListedBy before get items keys) (f : α → Option β) :
    ListedBy before (fun k => (get k).bind f) (items.filterMap f)
      (keys.filter fun k => ((get k).bind f).isSome) where
  inOrder := h.inOrder.filter _
  mem_of_get k b hb := by
    obtain ⟨a, ha, -⟩ := Option.bind_eq_some_iff.mp hb
    exact List.mem_filter.mpr ⟨h.mem_of_get k a ha, by rw [hb]; rfl⟩
  map_get := by
    have hpicked : items.filterMap f = keys.filterMap fun k => (get k).bind f := by
      calc items.filterMap f = (items.map some).filterMap (·.bind f) := by
            rw [List.filterMap_map]
            rfl
        _ = keys.filterMap fun k => (get k).bind f := by
            rw [← h.map_get, List.filterMap_map]
            rfl
    rw [hpicked, List.map_filterMap_some_eq_filter_map_isSome, List.filter_map]
    rfl

/-- **Lists of lists.** If every item has a list of its own, then all these lists, one after the
other, are listed by the keys of the item and of the list. -/
theorem flatMap {before' : ι → ι → Prop} {get' : α → ι → Option β} {parts : α → List β}
    {partKeys : α → List ι} (h : ListedBy before get items keys)
    (h' : ∀ a, ListedBy before' (get' a) (parts a) (partKeys a)) :
    ListedBy (Prod.Lex before before') (fun k => (get k.1).bind fun a => get' a k.2)
      (items.flatMap parts)
      (keys.flatMap fun k => ((get k).elim [] partKeys).map (k, ·)) where
  inOrder := by
    refine List.pairwise_flatMap.mpr ⟨fun k hk => ?_, ?_⟩
    · obtain ⟨a, -, ha⟩ := h.exists_of_mem hk
      rw [ha, Option.elim_some, List.pairwise_map]
      exact (h' a).inOrder.imp fun hij => Prod.Lex.right k hij
    · refine h.inOrder.imp fun hkl x hx y hy => ?_
      obtain ⟨i, -, rfl⟩ := List.mem_map.mp hx
      obtain ⟨j, -, rfl⟩ := List.mem_map.mp hy
      exact Prod.Lex.left i j hkl
  mem_of_get k b hb := by
    obtain ⟨a, ha, hb⟩ := Option.bind_eq_some_iff.mp hb
    refine List.mem_flatMap.mpr ⟨k.1, h.mem_of_get k.1 a ha, ?_⟩
    rw [ha, Option.elim_some]
    exact List.mem_map.mpr ⟨k.2, (h' a).mem_of_get k.2 b hb, rfl⟩
  map_get := by
    -- key by key: the part of an item is listed by its own keys
    have hpart (k : κ) (a : α) (ha : get k = some a) :
        (((get k).elim [] partKeys).map (k, ·)).map
          (fun k => (get k.1).bind fun a => get' a k.2) = (parts a).map some := by
      rw [ha, Option.elim_some, List.map_map, ← (h' a).map_get]
      refine List.map_congr_left fun i _ => ?_
      rw [Function.comp_apply, ha, Option.bind_some]
    rw [List.map_flatMap, List.map_flatMap]
    have hpairs := h.forall₂
    clear h
    induction hpairs with
    | nil => rfl
    | cons ha _ ih => rw [List.flatMap_cons, List.flatMap_cons, hpart _ _ ha, ih]

end ListedBy

/-- A list is listed by its numbers. -/
theorem listedBy_range (items : List α) :
    ListedBy (· < ·) (items[·]?) items (List.range items.length) where
  inOrder := List.pairwise_lt_range
  mem_of_get i _ hi := List.mem_range.mpr (List.getElem?_eq_some_iff.mp hi).1
  map_get := by
    refine List.ext_getElem (by simp) fun i hi _ => ?_
    rw [List.length_map, List.length_range] at hi
    rw [List.getElem_map, List.getElem_map, List.getElem_range, List.getElem?_eq_getElem hi]

end Listing

namespace Node

/-! ### The stack -/

theorem preorderAll_eq (ns : List Node) : preorderAll ns = ns.flatMap preorder := by
  induction ns with
  | nil => rfl
  | cons n ns ih => rw [preorderAll, ih, List.flatMap_cons]

theorem preorder_eq (n : Node) : n.preorder = n :: n.children.flatMap preorder := by
  obtain ⟨kind, id, text, line, children⟩ := n
  rw [preorder, preorderAll_eq]

theorem sizeAll_eq (ns : List Node) (h : ∀ n ∈ ns, n.size = n.preorder.length) :
    sizeAll ns = (preorderAll ns).length := by
  induction ns with
  | nil => rfl
  | cons n ns ih =>
    obtain ⟨hn, hns⟩ := List.forall_mem_cons.mp h
    rw [sizeAll, preorderAll, List.length_append, hn, ih hns]

theorem size_eq (n : Node) : n.size = n.preorder.length := by
  induction n using induction_on_children with
  | h n ih =>
    obtain ⟨kind, id, text, line, children⟩ := n
    rw [size, preorder, List.length_cons, sizeAll_eq children ih]

/-- **What comes off a stack of trees is tree after tree**, each node before its children, as far
as nodes are taken. -/
theorem unstack_eq_take (fuel : ℕ) (stack : List Node) :
    unstack fuel stack = (preorderAll stack).take fuel := by
  induction fuel generalizing stack with
  | zero => rw [unstack, List.take_zero]
  | succ fuel ih =>
    cases stack with
    | nil => rfl
    | cons n stack =>
      -- the children take the place of their parent on the stack
      have hstep : preorderAll (n :: stack) = n :: preorderAll (n.children ++ stack) := by
        rw [preorderAll, preorder_eq, preorderAll_eq, preorderAll_eq, List.flatMap_append,
          List.cons_append]
      rw [unstack, ih, hstep, List.take_succ_cons]

theorem unstack_singleton (fuel : ℕ) (n : Node) : unstack fuel [n] = n.preorder.take fuel := by
  rw [unstack_eq_take, preorderAll, preorderAll, List.append_nil]

theorem descendants_eq (n : Node) : n.descendants = n.preorder := by
  rw [descendants, unstack_singleton, size_eq, List.take_length]

/-! ### Nodes and children by place -/

theorem map_at?_places (n : Node) : n.places.map n.at? = n.preorder.map some := by
  induction n using induction_on_children with
  | h n ih =>
    rw [places_eq, preorder_eq, List.map_cons, List.map_cons, at?_nil, List.map_flatMap,
      List.map_flatMap]
    conv_rhs => rw [← List.zipIdx_map_fst 0 n.children, List.flatMap_map]
    refine congrArg (some n :: ·) (List.flatMap_congr fun c hc => ?_)
    rw [← ih c.1 (mem_of_mem_zipIdx hc), List.map_map]
    refine List.map_congr_left fun p _ => ?_
    rw [Function.comp_apply, at?_cons_of_child (List.mem_zipIdx_iff_getElem?.mp hc)]

/-- **The nodes of a tree are listed by their places.** -/
theorem listedBy_places (root : Node) :
    ListedBy (· < ·) root.at? root.descendants root.places where
  inOrder := root.pairwise_places
  mem_of_get _ m hm := mem_places_iff.mpr ⟨m, hm⟩
  map_get := by rw [map_at?_places, descendants_eq]

/-- The place of a child is that of its parent and one step more. -/
theorem at?_concat (root : Node) (p : List ℕ) (i : ℕ) :
    root.at? (p ++ [i]) = (root.at? p).bind fun n => n.children[i]? := by
  induction p generalizing root with
  | nil =>
    rw [List.nil_append, at?]
    exact Option.bind_fun_some _
  | cons j p ih =>
    rw [List.cons_append, at?, at?, Option.bind_assoc]
    exact congrArg _ (funext fun c => ih c)

/-- The nodes of a tree with each of their children. -/
def withChildren (root : Node) : List (Node × Node) :=
  root.descendants.flatMap fun owner => owner.children.map fun child => (owner, child)

/-- The node at a place, and its child with a number. -/
def childAt? (root : Node) (k : List ℕ × ℕ) : Option (Node × Node) :=
  (root.at? k.1).bind fun owner => owner.children[k.2]?.map fun child => (owner, child)

theorem childAt?_eq_some_iff {root owner child : Node} {p : List ℕ} {i : ℕ} :
    root.childAt? (p, i) = some (owner, child) ↔
      root.at? p = some owner ∧ root.at? (p ++ [i]) = some child := by
  rw [childAt?, at?_concat]
  simp only [Option.bind_eq_some_iff, Option.map_eq_some_iff, Prod.mk.injEq]
  constructor
  · rintro ⟨n, hn, m, hm, rfl, rfl⟩
    exact ⟨hn, n, hn, hm⟩
  · rintro ⟨howner, n, hn, hchild⟩
    cases howner.symm.trans hn
    exact ⟨owner, howner, child, hchild, rfl, rfl⟩

/-- **The children in a tree are listed by the place of their parent and their number.** -/
theorem listedBy_children (root : Node) :
    ∃ keys, ListedBy (Prod.Lex (· < ·) (· < ·)) root.childAt? root.withChildren keys := by
  have hchildren (owner : Node) :
      ListedBy (· < ·) (fun i : ℕ => owner.children[i]?.map fun child => (owner, child))
        (owner.children.map fun child => (owner, child))
        (List.range owner.children.length) := by
    have hrange := listedBy_range (owner.children.map fun child => (owner, child))
    simpa only [List.getElem?_map, List.length_map] using hrange
  exact ⟨_, root.listedBy_places.flatMap hchildren⟩

/-! ### Changes of a tree -/

/-- A node without its children. -/
def bare (n : Node) : Node :=
  { n with children := [] }

/-- **A tree is another one rearranged** if the children of some of its nodes stand in another
order. -/
inductive Rearranged : Node → Node → Prop
  /-- The children of the root are put in another order. -/
  | children {n : Node} {cs : List Node} (h : n.children.Perm cs) :
      Rearranged n { n with children := cs }
  /-- A child is rearranged. -/
  | inChild {n c d : Node} {left right : List Node} (hn : n.children = left ++ c :: right)
      (h : Rearranged c d) : Rearranged n { n with children := left ++ d :: right }
  /-- One change after the other. -/
  | trans {n m k : Node} (h : Rearranged n m) (h' : Rearranged m k) : Rearranged n k

/-- **A tree is another one with a tree added to it**, as one more child of some node. -/
inductive Grafted (new : Node) : Node → Node → Prop
  /-- The new tree becomes a child of the root. -/
  | here {n : Node} {left right : List Node} (hn : n.children = left ++ right) :
      Grafted new n { n with children := left ++ new :: right }
  /-- The new tree is added to a child. -/
  | inChild {n c d : Node} {left right : List Node} (hn : n.children = left ++ c :: right)
      (h : Grafted new c d) : Grafted new n { n with children := left ++ d :: right }

/-- **To rearrange a tree only changes the order of its nodes.** Their children are left out, as
these change too. -/
theorem Rearranged.perm {n m : Node} (h : Rearranged n m) :
    (n.preorder.map bare).Perm (m.preorder.map bare) := by
  induction h with
  | @children n cs hperm =>
    rw [preorder_eq, preorder_eq, List.map_cons, List.map_cons]
    exact ((hperm.flatMap_right preorder).map bare).cons _
  | @inChild n c d left right hn _ ih =>
    rw [preorder_eq, preorder_eq, hn, List.map_cons, List.map_cons]
    simp only [List.flatMap_append, List.flatMap_cons, List.map_append]
    exact ((ih.append_right _).append_left _).cons _
  | trans _ _ ih ih' => exact ih.trans ih'

theorem preorder_subset_of_mem {n c : Node} (h : c ∈ n.children) : c.preorder ⊆ n.preorder := by
  intro k hk
  rw [preorder_eq n]
  exact List.mem_cons_of_mem _ (List.mem_flatMap.mpr ⟨c, h, hk⟩)

/-- The nodes of a tree that is added to another are nodes of the whole. -/
theorem Grafted.subset {new n m : Node} (h : Grafted new n m) : new.preorder ⊆ m.preorder := by
  induction h with
  | here hn => exact preorder_subset_of_mem (List.mem_append_right _ (List.mem_cons_self ..))
  | inChild hn _ ih =>
    refine List.Subset.trans ih (preorder_subset_of_mem ?_)
    exact List.mem_append_right _ (List.mem_cons_self ..)

end Node

end PlatformAudit.Code
