import Mathlib.Order.WellFounded
import PlatformAudit.Proofs.Detect.Ancestors

/-!
# The search for ancestors as a loop

`PlatformAudit.Detect.visit` is defined by recursion on its room, so it says nothing
about whether a loop over a queue would end. This file has the loop: a pass takes one
name off the queue (`PlatformAudit.Detect.Search.pass`), and nothing bounds the number
of passes in advance. The queue may grow in a pass, and a resolver may answer with new
names for ever.

Passes come to an end all the same. A pass either takes up a new name, of which there
are at most `PlatformAudit.Detect.ancestorLimit`, or makes the queue shorter and leaves
everything else as it is. So the room that is left and the length of the queue decrease
together, lexicographically (`PlatformAudit.Detect.Search.measure_pass_lt`). What has
been visited and what a visit of the queue would still give do not change from pass to
pass, which is why the loop ends with what the visit gives
(`PlatformAudit.Detect.Search.Follows`).
-/

namespace PlatformAudit.Detect

open Text Code

/-- The search for the ancestors of a declaration, between two passes of its loop. -/
structure Search where
  /-- The names about which the resolver was asked, in order. -/
  asked : List String := []
  /-- The names that were taken up, in order. -/
  seen : List String := []
  /-- The types that were found, in order. -/
  found : List String := []
  queue : List String

namespace Search

/-- Asks the resolver about a name and queues what it answers. -/
def ask (r : Resolver) (name : String) (s : Search) : Search :=
  { s with asked := s.asked ++ [name], queue := s.queue ++ parents (some r) name }

/-- The search before the first pass. -/
def start (r : Resolver) (decl : Node) : Search :=
  ask r (declaredName decl)
    { queue := (decl.childrenOf .baseType).map writtenName }

/-- Adds a type to those found, unless it was found before. -/
def report (found : List String) : Option String → List String
  | none => found
  | some t => if t ∈ found then found else found ++ [t]

/-- A pass of the loop. If the queue is empty, the loop has ended and nothing happens. -/
def pass (types : List String) (r : Resolver) (s : Search) : Search :=
  match s.queue with
  | [] => s
  | name :: queue =>
    if ancestorLimit ≤ s.seen.length ∨ name ∈ s.seen then { s with queue }
    else
      ask r name
        { s with
          seen := s.seen ++ [name]
          found := report s.found (ancestorNamed? types name)
          queue }

variable {types : List String} {r : Resolver} {decl : Node} {s : Search}

/-! ### What a pass can do -/

theorem pass_of_nil (h : s.queue = []) : s.pass types r = s := by
  rw [pass, h]

/-- A pass over a name that was seen, or for which there is no room, only takes it off. -/
theorem pass_of_skip {name : String} {queue : List String} (h : s.queue = name :: queue)
    (hskip : ancestorLimit ≤ s.seen.length ∨ name ∈ s.seen) :
    s.pass types r = { s with queue } := by
  rw [pass, h]
  exact if_pos hskip

/-- A pass over a new name, while there is room, takes it up. -/
theorem pass_of_fresh {name : String} {queue : List String} (h : s.queue = name :: queue)
    (hroom : s.seen.length < ancestorLimit) (hname : name ∉ s.seen) :
    s.pass types r =
      { asked := s.asked ++ [name]
        seen := s.seen ++ [name]
        found := report s.found (ancestorNamed? types name)
        queue := queue ++ parents (some r) name } := by
  rw [pass, h]
  exact if_neg (not_or.mpr ⟨Nat.not_le.mpr hroom, hname⟩)

/-! ### The loop ends -/

/-- The room that is left, and the length of the queue. -/
def measure (s : Search) : ℕ × ℕ :=
  (ancestorLimit - s.seen.length, s.queue.length)

/-- **A pass makes the measure smaller**, lexicographically. -/
theorem measure_pass_lt (h : s.queue ≠ []) :
    Prod.Lex (· < ·) (· < ·) (s.pass types r).measure s.measure := by
  obtain ⟨name, queue, hqueue⟩ := List.exists_cons_of_ne_nil h
  by_cases hskip : ancestorLimit ≤ s.seen.length ∨ name ∈ s.seen
  · rw [pass_of_skip hqueue hskip, measure, measure, hqueue]
    exact .right _ (Nat.lt_succ_self _)
  · obtain ⟨hroom, hname⟩ := not_or.mp hskip
    rw [pass_of_fresh hqueue (Nat.not_le.mp hroom) hname, measure, measure]
    refine .left _ _ ?_
    rw [List.length_append, List.length_singleton]
    omega

/-- **From any state the loop ends.** -/
theorem exists_queue_eq_nil (types : List String) (r : Resolver) (s : Search) :
    ∃ n, ((pass types r)^[n] s).queue = [] := by
  have hwf : WellFounded (Prod.Lex (· < ·) (· < ·) : ℕ × ℕ → ℕ × ℕ → Prop) :=
    WellFounded.prod_lex Nat.lt_wfRel.wf Nat.lt_wfRel.wf
  -- the number of passes is not known in advance, so the induction is on the measure
  induction hm : s.measure using hwf.induction generalizing s with
  | _ m ih =>
    by_cases hqueue : s.queue = []
    · exact ⟨0, hqueue⟩
    · obtain ⟨n, hn⟩ := ih _ (hm ▸ measure_pass_lt hqueue) (s.pass types r) rfl
      exact ⟨n + 1, hn⟩

/-- Once the loop has ended nothing happens any more. -/
theorem queue_eq_nil_of_le {m n : ℕ} (h : ((pass types r)^[m] s).queue = []) (hmn : m ≤ n) :
    ((pass types r)^[n] s).queue = [] := by
  obtain ⟨k, rfl⟩ := Nat.exists_eq_add_of_le' hmn
  rw [Function.iterate_add_apply, Function.iterate_fixed (pass_of_nil h)]
  exact h

/-! ### What the loop gives -/

/-- A state of the loop on the way to the ancestors of a declaration. -/
structure Follows (types : List String) (r : Resolver) (decl : Node) (s : Search) : Prop where
  /-- The resolver was asked about the declaration and the names taken up. -/
  asked_eq : s.asked = declaredName decl :: s.seen
  found_eq : s.found = (s.seen.filterMap (ancestorNamed? types)).eraseDups
  /-- A visit of the queue gives what is missing. -/
  seen_append : s.seen ++ visit (parents (some r)) (ancestorLimit - s.seen.length)
    s.seen.reverse s.queue = ancestorsOf (some r) decl

theorem follows_start (types : List String) (r : Resolver) (decl : Node) :
    Follows types r decl (start r decl) where
  asked_eq := rfl
  found_eq := rfl
  seen_append := rfl

theorem report_eq (l : List String) (t : Option String) :
    report l.eraseDups t = (l ++ t.toList).eraseDups := by
  cases t with
  | none => rw [report, Option.toList_none, List.append_nil]
  | some t =>
    rw [report, Option.toList_some, List.eraseDups_append]
    by_cases ht : t ∈ l
    · simp [ht, List.removeAll]
    · simp [ht, List.removeAll, List.eraseDups_cons]

/-- A visit passes over a name that was seen, and has nothing to give without room. -/
theorem visit_cons_of_skip {next : String → List String} {seen queue : List String}
    {name : String} {room : ℕ} (h : room = 0 ∨ name ∈ seen) :
    visit next room seen (name :: queue) = visit next room seen queue := by
  cases room with
  | zero => rfl
  | succ room =>
    have hname : seen.contains name = true := by simpa using h
    rw [visit, visit, List.dropWhile_cons_of_pos (p := fun name => seen.contains name) hname]

/-- **A pass stays on the way.** -/
theorem Follows.pass (h : s.Follows types r decl) : (s.pass types r).Follows types r decl := by
  cases hqueue : s.queue with
  | nil => rwa [pass_of_nil hqueue]
  | cons name queue =>
    have hvisit := h.seen_append
    rw [hqueue] at hvisit
    by_cases hskip : ancestorLimit ≤ s.seen.length ∨ name ∈ s.seen
    · rw [pass_of_skip hqueue hskip]
      refine ⟨h.asked_eq, h.found_eq, ?_⟩
      rwa [visit_cons_of_skip] at hvisit
      exact hskip.imp Nat.sub_eq_zero_of_le List.mem_reverse.mpr
    · obtain ⟨hroom, hname⟩ := not_or.mp hskip
      replace hroom := Nat.not_le.mp hroom
      rw [pass_of_fresh hqueue hroom hname]
      refine ⟨?_, ?_, ?_⟩
      · rw [h.asked_eq]
        rfl
      · have hone : [name].filterMap (ancestorNamed? types) =
            (ancestorNamed? types name).toList := by
          cases hnamed : ancestorNamed? types name <;> simp [hnamed]
        rw [h.found_eq, report_eq, List.filterMap_append, hone]
      · -- the name is the next one that the visit gives
        have hdrop : (name :: queue).dropWhile (fun name => s.seen.reverse.contains name) =
            name :: queue := List.dropWhile_cons_of_neg (by simpa using hname)
        have hleft : ancestorLimit - s.seen.length =
            ancestorLimit - (s.seen ++ [name]).length + 1 := by
          rw [List.length_append, List.length_singleton]
          omega
        rw [hleft, visit_succ_of_fresh _ hdrop] at hvisit
        rw [← hvisit, List.append_assoc, List.reverse_append]
        rfl

/-- All passes stay on the way. -/
theorem follows_iterate (types : List String) (r : Resolver) (decl : Node) (n : ℕ) :
    ((Search.pass types r)^[n] (start r decl)).Follows types r decl := by
  induction n with
  | zero => exact follows_start types r decl
  | succ n ih =>
    rw [Function.iterate_succ_apply']
    exact ih.pass

/-- When the loop has ended it has taken up what the visit gives. -/
theorem Follows.seen_eq (h : s.Follows types r decl) (hqueue : s.queue = []) :
    s.seen = ancestorsOf (some r) decl := by
  have hvisit := h.seen_append
  rwa [hqueue, visit_nil, List.append_nil] at hvisit

end Search

/-- The ancestors depend on a resolver through what it says of the declaration and of the
ancestors visited. -/
theorem ancestorsOf_congr {r r' : Resolver} {decl : Node}
    (h : ∀ name ∈ declaredName decl :: ancestorsOf (some r) decl,
      r'.baseType name = r.baseType name ∧ r'.interfaces name = r.interfaces name) :
    ancestorsOf (some r') decl = ancestorsOf (some r) decl := by
  have hparents : ∀ name ∈ declaredName decl :: ancestorsOf (some r) decl,
      parents (some r') name = parents (some r) name := fun name hname => by
    rw [parents, parents, (h name hname).1, (h name hname).2]
  obtain ⟨hdecl, hrest⟩ := List.forall_mem_cons.mp hparents
  rw [ancestorsOf, firstAncestors, hdecl]
  exact visit_congr _ hrest

/-- **The search ends, whatever the resolver.** There is a number of passes from which on the
queue is empty. By then the resolver was asked about the declaration and then about ancestors, no
two the same and at most 256, and what was found are the hits of the declaration. Nor do these
depend on the resolver in any other way: they are the same with any resolver that gives the same
answers to these questions. -/
theorem ancestor_search_ends (types : List String) (r : Resolver) (decl : Node) :
    ∃ (passes : ℕ) (last : Search) (ancestors : List String),
      (∀ n, ((Search.pass types r)^[n] (Search.start r decl)).queue = [] ↔ passes ≤ n) ∧
      (Search.pass types r)^[passes] (Search.start r decl) = last ∧
      last.asked = declaredName decl :: ancestors ∧
      ancestors.Nodup ∧ ancestors.length ≤ 256 ∧
      (∀ a ∈ ancestors, Ancestor (some r) decl a) ∧
      last.found.map (fun t =>
        { line := decl.line, subject := declaredName decl, evidence := t }) =
          ancestorHitsAt types (some r) decl ∧
      ∀ r' : Resolver,
        (∀ name ∈ last.asked,
          r'.baseType name = r.baseType name ∧ r'.interfaces name = r.interfaces name) →
        ancestorHitsAt types (some r') decl = ancestorHitsAt types (some r) decl := by
  have hends := Search.exists_queue_eq_nil types r (Search.start r decl)
  -- the passes end with the first one that leaves the queue empty
  obtain ⟨last, hlast⟩ : ∃ last,
      (Search.pass types r)^[Nat.find hends] (Search.start r decl) = last := ⟨_, rfl⟩
  have hfollows := Search.follows_iterate types r decl (Nat.find hends)
  have hqueue := Nat.find_spec hends
  rw [hlast] at hfollows hqueue
  have hseen := hfollows.seen_eq hqueue
  have hasked := hfollows.asked_eq
  rw [hseen] at hasked
  refine ⟨Nat.find hends, last, ancestorsOf (some r) decl, fun n => ⟨Nat.find_min' hends, ?_⟩,
    hlast, hasked, nodup_visit _ _ _ _, length_visit_le _ _ _ _,
    fun _ => ancestor_of_mem_ancestorsOf, ?_, fun r' hagree => ?_⟩
  · exact Search.queue_eq_nil_of_le (Nat.find_spec hends)
  · rw [hfollows.found_eq, hseen, ancestorHitsAt_eq, evidenceAt]
  · rw [hasked] at hagree
    rw [ancestorHitsAt, ancestorHitsAt, ancestorsOf_congr hagree]

end PlatformAudit.Detect
