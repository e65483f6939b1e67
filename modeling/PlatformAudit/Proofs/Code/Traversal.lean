import Mathlib.Data.List.Sort
import Mathlib.Data.Set.Card
import PlatformAudit.Proofs.Code.Listing

/-!
# The two ways through a tree

A tree is gone through with a stack (`PlatformAudit.Code.Node.descendants`) or by a walk that
calls a visitor when it enters a node and when it leaves it
(`PlatformAudit.Code.Node.walk`). The visitor has a state and may turn back anywhere, so the nodes
that are entered are known only when the walk is over. This file describes them by what the
visitor answered: `PlatformAudit.Code.Node.traversals_agree`.

The calls of a walk are written into a log (`PlatformAudit.Code.Node.Visitor.logged`). Since equal
nodes may stand in a tree more than once, the log does not tell where a call belongs. So each
call of the log is matched with an **event**, which is the same call with the place of the node
in place of the node (`PlatformAudit.Code.Node.Walked`), and what is said of calls is said of
events. The induction is on the tree: the events below a node are those of its children, one child
after the other, with the number of the child put in front of each place.
-/

namespace PlatformAudit.Code

/-! ### Calls -/

/-- A call that is made on a walk. -/
inductive Call (α : Type)
  /-- Something is entered, and the answer tells whether the walk goes on below it. -/
  | enter (subject : α) (goesOn : Bool)
  /-- Something is left. -/
  | leave (subject : α)

namespace Call

variable {α β : Type}

/-- What a call is about. -/
def subject : Call α → α
  | enter a _ => a
  | leave a => a

/-- A call about something else. -/
def map (f : α → β) : Call α → Call β
  | enter a goesOn => enter (f a) goesOn
  | leave a => leave (f a)

/-- Whether something is entered. -/
def isEnter : Call α → Bool
  | enter _ _ => true
  | leave _ => false

/-- What is entered, or what is left, call by call. -/
def subjects (entering : Bool) (calls : List (Call α)) : List α :=
  (calls.filter fun e => e.isEnter == entering).map subject

/-- What is entered, call by call. -/
def entries (calls : List (Call α)) : List α :=
  subjects true calls

/-- What is left, call by call. -/
def exits (calls : List (Call α)) : List α :=
  subjects false calls

theorem subject_map (f : α → β) (e : Call α) : (e.map f).subject = f e.subject := by
  cases e <;> rfl

theorem map_map {γ : Type} (g : β → γ) (f : α → β) (e : Call α) :
    (e.map f).map g = e.map fun a => g (f a) := by
  cases e <;> rfl

theorem map_injective {f : α → β} (hf : Function.Injective f) :
    Function.Injective (map f) := by
  intro e e' h
  cases e <;> cases e' <;> simp only [map, enter.injEq, leave.injEq, reduceCtorEq] at h
  · obtain ⟨ha, rfl⟩ := h
    rw [hf ha]
  · rw [hf h]

theorem mem_entries_iff {calls : List (Call α)} {a : α} :
    a ∈ entries calls ↔ ∃ goesOn, enter a goesOn ∈ calls := by
  simp only [entries, subjects, List.mem_map, List.mem_filter]
  constructor
  · rintro ⟨e, ⟨he, hkind⟩, rfl⟩
    cases e with
    | enter a goesOn => exact ⟨goesOn, he⟩
    | leave a => cases hkind
  · rintro ⟨goesOn, he⟩
    exact ⟨_, ⟨he, rfl⟩, rfl⟩

theorem subjects_map (entering : Bool) (f : α → β) (calls : List (Call α)) :
    subjects entering (calls.map (map f)) = (subjects entering calls).map f := by
  have hkind : (fun e : Call β => e.isEnter == entering) ∘ map f = (·.isEnter == entering) := by
    funext e
    cases e <;> rfl
  rw [subjects, subjects, List.filter_map, hkind, List.map_map, List.map_map]
  exact List.map_congr_left fun e _ => subject_map f e

theorem entries_map (f : α → β) (calls : List (Call α)) :
    entries (calls.map (map f)) = (entries calls).map f :=
  subjects_map true f calls

theorem subjects_append (entering : Bool) (calls calls' : List (Call α)) :
    subjects entering (calls ++ calls') =
      subjects entering calls ++ subjects entering calls' := by
  rw [subjects, List.filter_append, List.map_append]
  rfl

theorem subjects_flatMap {ι : Type} (entering : Bool) (items : List ι)
    (calls : ι → List (Call α)) :
    subjects entering (items.flatMap calls) =
      items.flatMap fun a => subjects entering (calls a) := by
  rw [subjects, List.filter_flatMap, List.map_flatMap]
  rfl

end Call

/-! ### The number of places above -/

theorem finite_above (p : List ℕ) : {q | Above q p}.Finite := by
  refine p.inits.finite_toSet.subset fun q hq => ?_
  exact (List.mem_inits q p).mpr hq.1

theorem ncard_above_nil : {q | Above q []}.ncard = 0 := by
  have hnone : {q | Above q []} = ∅ := Set.eq_empty_of_forall_notMem not_above_nil
  rw [hnone, Set.ncard_empty]

/-- There is one more place above a place in a child than there is inside the child. -/
theorem ncard_above_cons (i : ℕ) (p : List ℕ) :
    {q | Above q (i :: p)}.ncard = {q | Above q p}.ncard + 1 := by
  have habove : {q | Above q (i :: p)} = insert [] ((i :: ·) '' {q | Above q p}) := by
    ext q
    cases q with
    | nil => exact iff_of_true (nil_above_cons i p) (Set.mem_insert _ _)
    | cons j q =>
      rw [Set.mem_ofPred_eq, cons_above_cons_iff]
      simp only [Set.mem_insert_iff, reduceCtorEq, Set.mem_image, Set.mem_ofPred_eq,
        List.cons.injEq, false_or]
      constructor
      · rintro ⟨rfl, hq⟩
        exact ⟨q, hq, rfl, rfl⟩
      · rintro ⟨q, hq, rfl, rfl⟩
        exact ⟨rfl, hq⟩
  have hroot : [] ∉ (i :: ·) '' {q | Above q p} := by
    rintro ⟨q, -, hq⟩
    exact List.cons_ne_nil i q hq
  rw [habove, Set.ncard_insert_of_notMem hroot ((finite_above p).image _),
    Set.ncard_image_of_injective _ (List.cons_injective)]

namespace Node

/-! ### The log of a walk -/

section Log

variable {σ : Type}

/-- A visitor that also writes down the calls that are made to it. -/
def Visitor.logged (v : Visitor σ) : Visitor (σ × List (Call (Node × ℕ))) where
  enter n depth s :=
    let (goesOn, state) := v.enter n depth s.1
    (goesOn, state, s.2 ++ [.enter (n, depth) goesOn])
  leave n depth s := (v.leave n depth s.1, s.2 ++ [.leave (n, depth)])

theorem logged_enter (v : Visitor σ) (n : Node) (depth : ℕ) (s : σ)
    (log : List (Call (Node × ℕ))) :
    v.logged.enter n depth (s, log) = ((v.enter n depth s).1, (v.enter n depth s).2,
      log ++ [.enter (n, depth) (v.enter n depth s).1]) := rfl

theorem logged_leave (v : Visitor σ) (n : Node) (depth : ℕ) (s : σ)
    (log : List (Call (Node × ℕ))) :
    v.logged.leave n depth (s, log) = (v.leave n depth s, log ++ [.leave (n, depth)]) := rfl

/-- The calls of a walk through a tree, from a state of the visitor. -/
def Visitor.calls (v : Visitor σ) (root : Node) (s : σ) : List (Call (Node × ℕ)) :=
  (root.walk v.logged 0 (s, [])).2

/-- A walk enters a node, goes on to its children if it is told to, and leaves the node. -/
theorem walk_eq (v : Visitor σ) (depth : ℕ) (n : Node) (s : σ) :
    n.walk v depth s = v.leave n depth (
      if (v.enter n depth s).1 then walkAll v (depth + 1) n.children (v.enter n depth s).2
      else (v.enter n depth s).2) := by
  obtain ⟨kind, id, text, line, children⟩ := n
  rw [walk]
  split
  next s' h => rw [h, if_pos rfl]
  next s' h => rw [h, if_neg Bool.false_ne_true]

end Log

/-! ### Events -/

/-- **The calls of a walk through a tree that is entered at a depth, and their places.** The nodes
that are entered are those above which no node made the walk turn back, in the order of the text.
They are the ones that are left, and when a node is left nothing happens in it any more. -/
structure Walked (root : Node) (depth : ℕ) (calls : List (Call (Node × ℕ)))
    (events : List (Call (List ℕ))) : Prop where
  /-- A call is about the node at the place, and its depth counts the places above. -/
  map_events : events.map (Call.map fun p => (root.at? p, depth + {q | Above q p}.ncard)) =
    calls.map (Call.map fun a => (some a.1, a.2))
  inOrder : (Call.entries events).Pairwise (· < ·)
  mem_entries_iff : ∀ p, p ∈ Call.entries events ↔
    p ∈ root.places ∧ ∀ q, Above q p → Call.enter q false ∉ events
  exits_perm : (Call.exits events).Perm (Call.entries events)
  leave_last : events.Pairwise fun e f => ∀ p, e = .leave p → ¬p <+: f.subject

/-- A walk through a tree, with its calls and their places. -/
structure Passage (depth : ℕ) where
  root : Node
  calls : List (Call (Node × ℕ))
  events : List (Call (List ℕ))
  walked : Walked root depth calls events

section Step

variable {n : Node} {depth i : ℕ} {ws : List (Passage (depth + 1))} {e : Call (List ℕ)}

/-- Where the walk turns back, only the node itself is entered. -/
theorem walked_turnedBack (n : Node) (depth : ℕ) :
    Walked n depth [.enter (n, depth) false, .leave (n, depth)]
      [.enter [] false, .leave []] where
  map_events := by
    simp only [List.map_cons, List.map_nil, Call.map, at?_nil, ncard_above_nil, Nat.add_zero]
  inOrder := List.pairwise_singleton _ _
  mem_entries_iff p := by
    rw [Call.mem_entries_iff]
    cases p with
    | nil =>
      refine iff_of_true ⟨false, List.mem_cons_self ..⟩ ⟨mem_places_iff.mpr ⟨n, rfl⟩, ?_⟩
      exact fun q hq => absurd hq (not_above_nil q)
    | cons i p =>
      refine iff_of_false (by simp) fun h => ?_
      exact h.2 [] (nil_above_cons i p) (List.mem_cons_self ..)
  exits_perm := List.Perm.refl _
  leave_last := by simp

/-- The events in the children of a node, as events in the whole tree. -/
def inChildren (ws : List (Passage depth)) : List (Call (List ℕ)) :=
  ws.zipIdx.flatMap fun w => w.1.events.map (Call.map (w.2 :: ·))

/-- The events of a walk that goes on to the children of the root. -/
def around (ws : List (Passage depth)) : List (Call (List ℕ)) :=
  .enter [] true :: (inChildren ws ++ [.leave []])

theorem mem_inChildren_iff {ws : List (Passage depth)} :
    e ∈ inChildren ws ↔ ∃ (i : ℕ) (w : Passage depth), ws[i]? = some w ∧
      ∃ f ∈ w.events, f.map (i :: ·) = e := by
  rw [inChildren, List.mem_flatMap]
  constructor
  · rintro ⟨⟨w, i⟩, hw, he⟩
    exact ⟨i, w, List.mem_zipIdx_iff_getElem?.mp hw, List.mem_map.mp he⟩
  · rintro ⟨i, w, hw, he⟩
    exact ⟨(w, i), List.mem_zipIdx_iff_getElem?.mpr hw, List.mem_map.mpr he⟩

/-- What happens at a place in a child happens on the walk through that child. -/
theorem map_cons_mem_around_iff (e : Call (List ℕ)) {ws : List (Passage depth)} :
    e.map (i :: ·) ∈ around ws ↔ ∃ w, ws[i]? = some w ∧ e ∈ w.events := by
  have hroot (f : Call (List ℕ)) (hf : f.subject = []) : e.map (i :: ·) ≠ f := by
    rintro rfl
    rw [Call.subject_map] at hf
    exact List.cons_ne_nil _ _ hf
  rw [around, List.mem_cons, List.mem_append, List.mem_singleton,
    or_iff_right (hroot (.enter [] true) rfl), or_iff_left (hroot (.leave []) rfl),
    mem_inChildren_iff]
  constructor
  · rintro ⟨j, w, hw, f, hf, hfe⟩
    have hsubject : j :: f.subject = i :: e.subject := by
      rw [← Call.subject_map (i :: ·) e, ← hfe, Call.subject_map]
    obtain ⟨rfl, -⟩ := List.cons.inj hsubject
    obtain rfl := Call.map_injective List.cons_injective hfe
    exact ⟨w, hw, hf⟩
  · rintro ⟨w, hw, he⟩
    exact ⟨i, w, hw, e, he, rfl⟩

theorem turnBack_notMem_around (ws : List (Passage depth)) : .enter [] false ∉ around ws := by
  rw [around, List.mem_cons, List.mem_append, List.mem_singleton, mem_inChildren_iff]
  rintro (h | ⟨i, w, -, f, -, hf⟩ | h)
  · cases h
  · cases f <;> cases hf
  · cases h

theorem subjects_around (entering : Bool) (ws : List (Passage depth)) :
    Call.subjects entering (around ws) = Call.subjects entering [.enter [] true] ++
      ((ws.zipIdx.flatMap fun w => (Call.subjects entering w.1.events).map (w.2 :: ·)) ++
        Call.subjects entering [.leave []]) := by
  rw [around, inChildren, ← List.singleton_append, Call.subjects_append, Call.subjects_append,
    Call.subjects_flatMap]
  simp only [Call.subjects_map]

theorem entries_around (ws : List (Passage depth)) :
    Call.entries (around ws) =
      [] :: ws.zipIdx.flatMap fun w => (Call.entries w.1.events).map (w.2 :: ·) := by
  rw [Call.entries, subjects_around]
  exact congrArg ([] :: ·) (List.append_nil _)

theorem exits_around (ws : List (Passage depth)) :
    Call.exits (around ws) =
      (ws.zipIdx.flatMap fun w => (Call.exits w.1.events).map (w.2 :: ·)) ++ [[]] :=
  subjects_around false ws

/-- A node is left when nothing more happens in it, also where it is part of a larger tree. -/
theorem leave_last_around (ws : List (Passage depth)) :
    (around ws).Pairwise fun e f => ∀ p, e = .leave p → ¬p <+: f.subject := by
  have hleave (i : ℕ) (e : Call (List ℕ)) (p : List ℕ) (h : e.map (i :: ·) = .leave p) :
      ∃ q, e = .leave q ∧ p = i :: q := by
    cases e with
    | enter q goesOn => cases h
    | leave q =>
      cases h
      exact ⟨q, rfl, rfl⟩
  rw [around, inChildren, List.pairwise_cons, List.pairwise_append, List.pairwise_flatMap]
  refine ⟨fun f _ p hp => (nomatch hp), ⟨fun w _ => ?_, ?_⟩, List.pairwise_singleton _ _, ?_⟩
  · rw [List.pairwise_map]
    refine w.1.walked.leave_last.imp fun {e f} hef p hp => ?_
    obtain ⟨q, rfl, rfl⟩ := hleave w.2 e p hp
    rw [Call.subject_map, List.cons_prefix_cons]
    exact fun h => hef q rfl h.2
  · -- a place in one child is no part of the way to a place in another
    refine (pairwise_zipIdx ws 0).imp fun {w w'} hlt e he f hf p hp => ?_
    obtain ⟨e, -, rfl⟩ := List.mem_map.mp he
    obtain ⟨f, -, rfl⟩ := List.mem_map.mp hf
    obtain ⟨q, rfl, rfl⟩ := hleave w.2 e p hp
    rw [Call.subject_map, List.cons_prefix_cons]
    exact fun h => Nat.ne_of_lt hlt h.1
  · intro e he f hf p hp
    obtain ⟨w, -, he⟩ := List.mem_flatMap.mp he
    obtain ⟨e, -, rfl⟩ := List.mem_map.mp he
    obtain ⟨q, rfl, rfl⟩ := hleave w.2 e p hp
    rw [List.mem_singleton.mp hf]
    exact fun h => List.cons_ne_nil _ _ (List.prefix_nil.mp h)

/-- The nodes that are entered below the root are those entered on the walks through its
children. -/
theorem mem_entries_around_iff (hchildren : ws.map (·.root) = n.children) (p : List ℕ) :
    p ∈ Call.entries (around ws) ↔
      p ∈ n.places ∧ ∀ q, Above q p → Call.enter q false ∉ around ws := by
  have hchild (i : ℕ) : n.children[i]? = ws[i]?.map (·.root) := by
    rw [← hchildren, List.getElem?_map]
  cases p with
  | nil =>
    refine iff_of_true ?_ ⟨mem_places_iff.mpr ⟨n, rfl⟩, fun q hq => absurd hq (not_above_nil q)⟩
    rw [entries_around]
    exact List.mem_cons_self ..
  | cons i p =>
    have hentered : i :: p ∈ Call.entries (around ws) ↔
        ∃ w, ws[i]? = some w ∧ p ∈ Call.entries w.events := by
      simp only [Call.mem_entries_iff]
      constructor
      · rintro ⟨goesOn, h⟩
        obtain ⟨w, hw, he⟩ := (map_cons_mem_around_iff (.enter p goesOn)).mp h
        exact ⟨w, hw, goesOn, he⟩
      · rintro ⟨w, hw, goesOn, he⟩
        exact ⟨goesOn, (map_cons_mem_around_iff (.enter p goesOn)).mpr ⟨w, hw, he⟩⟩
    rw [hentered, cons_mem_places_iff]
    constructor
    · rintro ⟨w, hw, hp⟩
      obtain ⟨hplace, habove⟩ := (w.walked.mem_entries_iff p).mp hp
      refine ⟨⟨w.root, by rw [hchild, hw]; rfl, hplace⟩, fun q hq hturn => ?_⟩
      cases q with
      | nil => exact turnBack_notMem_around ws hturn
      | cons j q =>
        obtain ⟨rfl, hbelow⟩ := cons_above_cons_iff.mp hq
        obtain ⟨w', hw', hturn⟩ := (map_cons_mem_around_iff (.enter q false)).mp hturn
        cases hw.symm.trans hw'
        exact habove q hbelow hturn
    · rintro ⟨⟨c, hc, hplace⟩, habove⟩
      rw [hchild, Option.map_eq_some_iff] at hc
      obtain ⟨w, hw, rfl⟩ := hc
      refine ⟨w, hw, (w.walked.mem_entries_iff p).mpr ⟨hplace, fun q hq hturn => ?_⟩⟩
      refine habove (i :: q) (cons_above_cons_iff.mpr ⟨rfl, hq⟩) ?_
      exact (map_cons_mem_around_iff (.enter q false)).mpr ⟨w, hw, hturn⟩

/-- **Where the walk goes on, it goes through one child after the other.** -/
theorem walked_wentOn (hchildren : ws.map (·.root) = n.children) :
    Walked n depth (.enter (n, depth) true :: (ws.flatMap (·.calls) ++ [.leave (n, depth)]))
      (around ws) where
  map_events := by
    -- the node at a place in a child has one place more above it in the whole tree
    have hpart (w : Passage (depth + 1) × ℕ) (hw : w ∈ ws.zipIdx) :
        (w.1.events.map (Call.map (w.2 :: ·))).map
          (Call.map fun p => (n.at? p, depth + {q | Above q p}.ncard)) =
        w.1.calls.map (Call.map fun a => (some a.1, a.2)) := by
      have hchild : n.children[w.2]? = some w.1.root := by
        rw [← hchildren, List.getElem?_map, List.mem_zipIdx_iff_getElem?.mp hw]
        rfl
      rw [← w.1.walked.map_events, List.map_map]
      refine List.map_congr_left fun e _ => ?_
      rw [Function.comp_apply, Call.map_map]
      refine congrArg (Call.map · e) (funext fun p => ?_)
      rw [at?_cons_of_child hchild, ncard_above_cons, Nat.add_right_comm, Nat.add_assoc]
    have hparts : (inChildren ws).map
        (Call.map fun p => (n.at? p, depth + {q | Above q p}.ncard)) =
        (ws.flatMap (·.calls)).map (Call.map fun a => (some a.1, a.2)) := by
      rw [inChildren, List.map_flatMap, List.map_flatMap, List.flatMap_congr hpart]
      conv_rhs => rw [← List.zipIdx_map_fst 0 ws, List.flatMap_map]
    simp only [around, List.map_cons, List.map_append, hparts, List.map_nil, Call.map, at?_nil,
      ncard_above_nil, Nat.add_zero]
  inOrder := by
    rw [entries_around]
    exact pairwise_nil_cons ws _ fun w _ => w.walked.inOrder
  mem_entries_iff := mem_entries_around_iff hchildren
  exits_perm := by
    rw [exits_around, entries_around]
    refine (List.perm_append_singleton _ _).trans ((List.Perm.flatMap_left _ fun w _ => ?_).cons _)
    exact w.1.walked.exits_perm.map _
  leave_last := leave_last_around ws

end Step

/-! ### Whole walks -/

section Run

variable {σ : Type} (v : Visitor σ)

/-- Trees one after the other: their calls are made one after the other. -/
theorem walkAll_logged {ns : List Node} {depth : ℕ}
    (h : ∀ n ∈ ns, ∀ s log, ∃ w : Passage depth, w.root = n ∧
      n.walk v.logged depth (s, log) = (n.walk v depth s, log ++ w.calls))
    (s : σ) (log : List (Call (Node × ℕ))) :
    ∃ ws : List (Passage depth), ws.map (·.root) = ns ∧
      walkAll v.logged depth ns (s, log) = (walkAll v depth ns s, log ++ ws.flatMap (·.calls)) := by
  induction ns generalizing s log with
  | nil => exact ⟨[], rfl, by rw [walkAll, walkAll, List.flatMap_nil, List.append_nil]⟩
  | cons n ns ih =>
    obtain ⟨hn, hns⟩ := List.forall_mem_cons.mp h
    obtain ⟨w, rfl, hw⟩ := hn s log
    obtain ⟨ws, rfl, hws⟩ := ih hns (w.root.walk v depth s) (log ++ w.calls)
    refine ⟨w :: ws, rfl, ?_⟩
    rw [walkAll, walkAll, hw, hws, List.flatMap_cons, List.append_assoc]

/-- **What a walk adds to the log are the calls of a passage**, and the log changes nothing. -/
theorem walk_logged (n : Node) (depth : ℕ) (s : σ) (log : List (Call (Node × ℕ))) :
    ∃ w : Passage depth, w.root = n ∧
      n.walk v.logged depth (s, log) = (n.walk v depth s, log ++ w.calls) := by
  induction n using induction_on_children generalizing depth s log with
  | h n ih =>
    rw [walk_eq v.logged, walk_eq v, logged_enter]
    rcases v.enter n depth s with ⟨goesOn, s⟩
    cases goesOn with
    | false =>
      refine ⟨⟨n, _, _, walked_turnedBack n depth⟩, rfl, ?_⟩
      rw [if_neg Bool.false_ne_true, if_neg Bool.false_ne_true, logged_leave, List.append_assoc]
      rfl
    | true =>
      obtain ⟨ws, hchildren, hws⟩ := walkAll_logged v (fun c hc => ih c hc (depth + 1)) s
        (log ++ [.enter (n, depth) true])
      refine ⟨⟨n, _, _, walked_wentOn hchildren⟩, rfl, ?_⟩
      rw [if_pos rfl, if_pos rfl, hws, logged_leave, List.append_assoc, List.append_assoc]
      rfl

end Run

/-- **A walk that never turns back enters the nodes of the tree in the order of the text.** -/
theorem Walked.map_entries {root : Node} {depth : ℕ} {calls : List (Call (Node × ℕ))}
    {events : List (Call (List ℕ))} (h : Walked root depth calls events)
    (hgoesOn : ∀ a, Call.enter a false ∉ calls) :
    (Call.entries calls).map Prod.fst = root.descendants := by
  have hnever (p : List ℕ) : Call.enter p false ∉ events := by
    intro hp
    have hmapped := List.mem_map_of_mem
      (f := Call.map fun p => (root.at? p, depth + {q | Above q p}.ncard)) hp
    rw [h.map_events, List.mem_map] at hmapped
    obtain ⟨call, hcall, hmap⟩ := hmapped
    cases call with
    | enter a goesOn =>
      obtain ⟨-, rfl⟩ := Call.enter.inj hmap
      exact hgoesOn a hcall
    | leave a => cases hmap
  have hplaces : Call.entries events = root.places := by
    refine h.inOrder.eq_of_mem_iff root.pairwise_places fun {p} => ?_
    rw [h.mem_entries_iff]
    exact and_iff_left fun q _ => hnever q
  have hentries := congrArg Call.entries h.map_events
  rw [Call.entries_map, Call.entries_map, hplaces] at hentries
  refine List.map_injective_iff.mpr (Option.some_injective Node) ?_
  calc ((Call.entries calls).map Prod.fst).map some
      = ((Call.entries calls).map fun a => (some a.1, a.2)).map Prod.fst := by
        rw [List.map_map, List.map_map]
        rfl
    _ = root.places.map root.at? := by
        rw [← hentries, List.map_map]
        rfl
    _ = root.descendants.map some := root.listedBy_places.map_get

/-- **The two ways through a tree agree.** What comes off the stack are the nodes of the tree in
recursive order, one for each place; as many nodes as are asked for come first. A visitor is called
as `PlatformAudit.Code.Node.Walked` says, whatever it does, and if it never turns back the nodes
that are entered are those that come off the stack. -/
theorem traversals_agree {σ : Type} (root : Node) (v : Visitor σ) (s : σ) :
    (∀ k, unstack k [root] = root.preorder.take k) ∧
    root.descendants = root.preorder ∧
    ListedBy (· < ·) root.at? root.descendants root.places ∧
    (root.walk v.logged 0 (s, [])).1 = root.walk v 0 s ∧
    (∃ events, Walked root 0 (v.calls root s) events) ∧
    ((∀ a, Call.enter a false ∉ v.calls root s) →
      (Call.entries (v.calls root s)).map Prod.fst = root.descendants) := by
  obtain ⟨w, rfl, hw⟩ := walk_logged v root 0 s []
  have hcalls : v.calls w.root s = w.calls := by rw [Visitor.calls, hw, List.nil_append]
  rw [hcalls, hw]
  exact ⟨fun k => unstack_singleton k _, descendants_eq _, listedBy_places _, rfl,
    ⟨w.events, w.walked⟩, w.walked.map_entries⟩

/-- A unit with two equal names, and a visitor that counts what it enters. -/
theorem traversals_agree_twins :
    let name : Node := ⟨.identifier, none, some "x", 2, []⟩
    let root : Node := ⟨.compilationUnit, none, none, 1, [name, name]⟩
    let v : Visitor ℕ := ⟨fun _ _ s => (true, s + 1), fun _ _ s => s⟩
    (∀ a, Call.enter a false ∉ v.calls root 0) ∧
      (Call.entries (v.calls root 0)).map Prod.fst = root.descendants := by
  intro name root v
  have hcalls : v.calls root 0 = [.enter (root, 0) true, .enter (name, 1) true, .leave (name, 1),
      .enter (name, 1) true, .leave (name, 1), .leave (root, 0)] := rfl
  have hgoesOn (a : Node × ℕ) : Call.enter a false ∉ v.calls root 0 := by
    rw [hcalls]
    simp
  exact ⟨hgoesOn, (traversals_agree root v 0).2.2.2.2.2 hgoesOn⟩

example :
    let root : Node := ⟨.compilationUnit, none, some "root", 1,
      [⟨.qualifiedName, none, some "A.B", 2, [⟨.identifier, none, some "A", 2, []⟩]⟩,
        ⟨.identifier, none, some "c", 3, []⟩]⟩
    let v : Visitor Unit := ⟨fun n _ s => (n.kind != .qualifiedName, s), fun _ _ s => s⟩
    (Call.entries (v.calls root ())).map (fun a => (a.1.label, a.2)) =
      [("root", 0), ("A.B", 1), ("c", 1)] := by
  decide

end Node

end PlatformAudit.Code
