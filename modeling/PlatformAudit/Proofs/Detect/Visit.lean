import Mathlib.Data.List.Infix
import Mathlib.Data.List.TakeWhile
import Mathlib.Data.Set.Card
import Mathlib.Logic.Relation
import PlatformAudit.Detect.Ancestors

/-!
# Breadth-first visits

`PlatformAudit.Detect.visit` takes names from a queue, passes over those it has seen,
and stops when its room is used up. Nothing is assumed about where a name leads: names
may lead back to each other, or to new names without end.

What a visit gives is described by an equation with the visit on both sides,
`PlatformAudit.Detect.visit_eq_take`: the names are those of the first queue and then
all that visited names lead to, each where it stands first, as far as there is room.
From it follows that no name is visited twice and that there is never more than room
for. It does not say that visited names can be reached, since a name could stand on the
right for no other reason than that it stands on the left; that is an induction of its
own (`PlatformAudit.Detect.reached_of_mem_visit`).

Beside the queue stands the traversal by rounds (`PlatformAudit.Detect.traverse`): in
each round the names of the round before are gone through in order. It has no queue and
no limit, and `PlatformAudit.Detect.visit_eq_take_met` says that a visit is its
beginning.
-/

namespace PlatformAudit.Detect

/-! ### Lists without repetitions -/

section Repetitions

variable {α : Type} [BEq α] [LawfulBEq α]

theorem nodup_eraseDups (l : List α) : l.eraseDups.Nodup := by
  -- the tail loses the head before its own repetitions go, so the induction is on the length
  induction hn : l.length using Nat.strong_induction_on generalizing l with
  | _ n ih =>
    cases l with
    | nil => exact List.nodup_nil
    | cons a l =>
      have hshorter : (l.filter fun b => !b == a).length < n := by
        rw [← hn]
        exact Nat.lt_succ_of_le (List.length_filter_le _ _)
      rw [List.eraseDups_cons]
      refine List.nodup_cons.mpr ⟨?_, ih _ hshorter _ rfl⟩
      simp [List.mem_eraseDups]

/-- What follows in a list has no influence on what stands first where. -/
theorem isPrefix_eraseDups {l l' : List α} (h : l <+: l') : l.eraseDups <+: l'.eraseDups := by
  obtain ⟨rest, rfl⟩ := h
  rw [List.eraseDups_append]
  exact List.prefix_append _ _

omit [LawfulBEq α] in
theorem removeAll_append (l l' removed : List α) :
    (l ++ l').removeAll removed = l.removeAll removed ++ l'.removeAll removed :=
  List.filter_append ..

theorem removeAll_congr {l removed removed' : List α} (h : ∀ a, a ∈ removed ↔ a ∈ removed') :
    l.removeAll removed = l.removeAll removed' := by
  refine List.filter_congr fun a _ => ?_
  rw [Bool.eq_iff_iff]
  simp [h]

end Repetitions

/-- Different names out of a set with at most `n` names are at most `n`. -/
theorem length_le_of_encard_le {names : List String} {s : Set String} {n : ℕ}
    (hnodup : names.Nodup) (hmem : ∀ a ∈ names, a ∈ s) (hs : s.encard ≤ n) :
    names.length ≤ n := by
  have hcard : ((names.toFinset : Set String)).encard ≤ n :=
    (Set.encard_le_encard fun a ha => hmem a (List.mem_toFinset.mp ha)).trans hs
  rw [Set.encard_coe_eq_coe_finsetCard, List.toFinset_card_of_nodup hnodup] at hcard
  exact_mod_cast hcard

/-! ### What can be reached -/

section Visits

variable (next : String → List String)

/-- A name can be reached from some first names if one of them leads to it, in any number of
steps. -/
def Reached (first : List String) (a : String) : Prop :=
  ∃ x ∈ first, Relation.ReflTransGen (fun b c => c ∈ next b) x a

variable {next} {first : List String} {a b : String}

theorem reached_of_mem (h : a ∈ first) : Reached next first a :=
  ⟨a, h, .refl⟩

theorem Reached.tail (h : Reached next first a) (hb : b ∈ next a) : Reached next first b := by
  obtain ⟨x, hx, hsteps⟩ := h
  exact ⟨x, hx, hsteps.tail hb⟩

/-- **Reachable names are in every set** that holds the first names and is closed. -/
theorem Reached.mem_of_closed {s : Set String} (h : Reached next first a)
    (hfirst : ∀ x ∈ first, x ∈ s) (hclosed : ∀ b ∈ s, ∀ c ∈ next b, c ∈ s) : a ∈ s := by
  obtain ⟨x, hx, hsteps⟩ := h
  induction hsteps with
  | refl => exact hfirst x hx
  | tail _ hstep ih => exact hclosed _ ih _ hstep

/-! ### Visits -/

variable (next) {room : ℕ} {seen queue : List String}

theorem visit_succ_of_drained (h : queue.dropWhile (fun name => seen.contains name) = []) :
    visit next (room + 1) seen queue = [] := by
  rw [visit, h]

theorem visit_succ_of_fresh {name : String} {rest : List String}
    (h : queue.dropWhile (fun name => seen.contains name) = name :: rest) :
    visit next (room + 1) seen queue =
      name :: visit next room (name :: seen) (rest ++ next name) := by
  rw [visit, h]

theorem visit_nil : visit next room seen [] = [] := by
  cases room <;> rfl

/-- The first name of a queue that was not seen, with those before and after it. -/
theorem exists_of_dropWhile_seen {name : String} {rest : List String}
    (h : queue.dropWhile (fun name => seen.contains name) = name :: rest) :
    ∃ passed, queue = passed ++ name :: rest ∧ (∀ a ∈ passed, a ∈ seen) ∧ name ∉ seen := by
  refine ⟨queue.takeWhile fun name => seen.contains name, ?_, fun a ha => ?_, fun hname => ?_⟩
  · rw [← h, List.takeWhile_append_dropWhile]
  · simpa using List.mem_takeWhile_imp ha
  · have hhead := List.head?_dropWhile_not (fun name => seen.contains name) queue
    rw [h] at hhead
    simp [hname] at hhead

/-- **What a visit gives**: the names of the queue and those that visited names lead to, without
those seen before, each where it stands first, as far as there is room. -/
theorem visit_eq_take (room : ℕ) (seen queue : List String) :
    visit next room seen queue =
      (((queue ++ (visit next room seen queue).flatMap next).removeAll seen).eraseDups).take
        room := by
  induction room generalizing seen queue with
  | zero => rfl
  | succ room ih =>
    cases hdrop : queue.dropWhile fun name => seen.contains name with
    | nil =>
      have hseen : queue.removeAll seen = [] :=
        List.filter_eq_nil_iff.mpr fun a ha => by
          simpa using List.dropWhile_eq_nil_iff.mp hdrop a ha
      rw [visit_succ_of_drained next hdrop, List.flatMap_nil, List.append_nil, hseen]
      rfl
    | cons name rest =>
      obtain ⟨passed, rfl, hpassed, hname⟩ := exists_of_dropWhile_seen hdrop
      -- on the right too the names passed over drop out, the fresh one stays, and it is then
      -- removed from all that follows, as if it had been seen
      have hgone : passed.removeAll seen = [] :=
        List.filter_eq_nil_iff.mpr fun a ha => by simpa using hpassed a ha
      have hkept (l : List String) : (name :: l).removeAll seen = name :: l.removeAll seen :=
        List.filter_cons_of_pos (by simpa using hname)
      have hrest (l : List String) :
          (l.removeAll seen).filter (fun b => !b == name) = l.removeAll (name :: seen) := by
        rw [List.removeAll_cons, List.removeAll, List.removeAll, List.filter_comm]
      rw [visit_succ_of_fresh next hdrop, List.flatMap_cons, List.append_assoc, List.cons_append,
        removeAll_append, hgone, List.nil_append, hkept, List.eraseDups_cons, hrest,
        List.take_succ_cons, ← List.append_assoc, ← ih]

theorem nodup_visit (room : ℕ) (seen queue : List String) :
    (visit next room seen queue).Nodup := by
  rw [visit_eq_take]
  exact (nodup_eraseDups _).sublist (List.take_sublist _ _)

theorem length_visit_le (room : ℕ) (seen queue : List String) :
    (visit next room seen queue).length ≤ room := by
  rw [visit_eq_take]
  exact List.length_take_le _ _

/-- **Only what can be reached is visited.** -/
theorem reached_of_mem_visit (hqueue : ∀ x ∈ queue, Reached next first x)
    (h : a ∈ visit next room seen queue) : Reached next first a := by
  induction room generalizing seen queue with
  | zero => cases h
  | succ room ih =>
    cases hdrop : queue.dropWhile fun name => seen.contains name with
    | nil =>
      rw [visit_succ_of_drained next hdrop] at h
      cases h
    | cons name rest =>
      obtain ⟨passed, rfl, -, -⟩ := exists_of_dropWhile_seen hdrop
      have hname : Reached next first name := hqueue name (by simp)
      rw [visit_succ_of_fresh next hdrop] at h
      rcases List.mem_cons.mp h with rfl | h
      · exact hname
      · -- the new queue has old names and names that the one just visited leads to
        refine ih (fun x hx => ?_) h
        rcases List.mem_append.mp hx with hx | hx
        · exact hqueue x (by simp [hx])
        · exact hname.tail hx

/-- **Only visited names are asked where they lead**: a visit is the same for any two functions
that agree on them. -/
theorem visit_congr {next' : String → List String}
    (h : ∀ a ∈ visit next room seen queue, next' a = next a) :
    visit next' room seen queue = visit next room seen queue := by
  induction room generalizing seen queue with
  | zero => rfl
  | succ room ih =>
    cases hdrop : queue.dropWhile fun name => seen.contains name with
    | nil => rw [visit_succ_of_drained next hdrop, visit_succ_of_drained next' hdrop]
    | cons name rest =>
      rw [visit_succ_of_fresh next hdrop] at h ⊢
      rw [visit_succ_of_fresh next' hdrop, h name (List.mem_cons_self ..),
        ih fun a ha => h a (List.mem_cons_of_mem _ ha)]

/-- **A visit that goes on from its names begins as one that does not**, also if further names
wait behind those of its queue: they are all taken up later. -/
theorem visit_stop_isPrefix (room : ℕ) (seen queue later : List String) :
    visit (fun _ => []) room seen queue <+: visit next room seen (queue ++ later) := by
  induction room generalizing seen queue later with
  | zero => exact List.nil_prefix
  | succ room ih =>
    cases hdrop : queue.dropWhile fun name => seen.contains name with
    | nil =>
      rw [visit_succ_of_drained _ hdrop]
      exact List.nil_prefix
    | cons name rest =>
      -- both visits take up the same name, and what it leads to joins the later names
      have hdrop' : (queue ++ later).dropWhile (fun name => seen.contains name) =
          name :: (rest ++ later) := by
        rw [List.dropWhile_append, hdrop]
        rfl
      rw [visit_succ_of_fresh _ hdrop, visit_succ_of_fresh next hdrop', List.append_nil,
        List.append_assoc]
      exact (List.prefix_cons_inj name).mpr (ih _ _ _)

/-! ### Traversal by rounds -/

/-- A traversal after some rounds. -/
structure Traversal where
  /-- The names met so far, in the order in which they were met. -/
  met : List String
  /-- Those of them that were met in the latest round. -/
  latest : List String

/-- The breadth-first traversal after a number of rounds. In each round the names of the round
before are gone through in order, and what they lead to is met unless it was met before. -/
def traverse (first : List String) : ℕ → Traversal
  | 0 => ⟨first.eraseDups, first.eraseDups⟩
  | n + 1 =>
    let t := traverse first n
    let fresh := ((t.latest.flatMap next).removeAll t.met).eraseDups
    ⟨t.met ++ fresh, fresh⟩

variable (first)

theorem met_isPrefix_succ (n : ℕ) :
    (traverse next first n).met <+: (traverse next first (n + 1)).met :=
  List.prefix_append _ _

section Rounds

variable {next first} {n : ℕ}

/-- One round: if the names of the latest round come last, and all others have led to what was
met, then after the round all names met before it have. -/
theorem met_succ_of_earlier {earlier : List String}
    (hlatest : (traverse next first n).met = earlier ++ (traverse next first n).latest)
    (hmet : (traverse next first n).met = (first ++ earlier.flatMap next).eraseDups) :
    (traverse next first (n + 1)).met =
      (first ++ (traverse next first n).met.flatMap next).eraseDups := by
  have hsame (l : List String) : l.removeAll (first ++ earlier.flatMap next) =
      l.removeAll (traverse next first n).met :=
    removeAll_congr fun a => by rw [hmet, List.mem_eraseDups]
  conv_rhs => rw [hlatest, List.flatMap_append, ← List.append_assoc, List.eraseDups_append,
    ← hmet, hsame]
  rfl

variable (next first)

theorem exists_earlier (n : ℕ) : ∃ earlier,
    (traverse next first n).met = earlier ++ (traverse next first n).latest ∧
      (traverse next first n).met = (first ++ earlier.flatMap next).eraseDups := by
  induction n with
  | zero => exact ⟨[], rfl, by rw [List.flatMap_nil, List.append_nil]; rfl⟩
  | succ n ih =>
    obtain ⟨earlier, hlatest, hmet⟩ := ih
    exact ⟨(traverse next first n).met, rfl, met_succ_of_earlier hlatest hmet⟩

/-- **What has been met after a further round**: the first names and all that the names met
before lead to, each where it stands first. -/
theorem met_succ (n : ℕ) : (traverse next first (n + 1)).met =
    (first ++ (traverse next first n).met.flatMap next).eraseDups := by
  obtain ⟨earlier, hlatest, hmet⟩ := exists_earlier next first n
  exact met_succ_of_earlier hlatest hmet

theorem nodup_met (n : ℕ) : (traverse next first n).met.Nodup := by
  obtain ⟨earlier, -, hmet⟩ := exists_earlier next first n
  rw [hmet]
  exact nodup_eraseDups _

variable {next first} in
theorem reached_of_mem_met (h : a ∈ (traverse next first n).met) : Reached next first a := by
  induction n generalizing a with
  | zero => exact reached_of_mem (List.mem_eraseDups.mp h)
  | succ n ih =>
    rw [met_succ, List.mem_eraseDups, List.mem_append] at h
    rcases h with h | h
    · exact reached_of_mem h
    · obtain ⟨b, hb, hab⟩ := List.mem_flatMap.mp h
      exact (ih hb).tail hab

/-- **Every round meets a new name until all have been met.** -/
theorem lt_length_met_or_complete (n : ℕ) :
    n < (traverse next first n).met.length ∨
      ∀ a, Reached next first a → a ∈ (traverse next first n).met := by
  induction n with
  | zero =>
    cases hfirst : first with
    | nil =>
      refine .inr fun a ha => ?_
      obtain ⟨x, hx, -⟩ := ha
      cases hx
    | cons x xs =>
      refine .inl (List.length_pos_of_mem (a := x) ?_)
      exact List.mem_eraseDups.mpr (List.mem_cons_self ..)
  | succ n ih =>
    have hgrows := met_isPrefix_succ next first n
    rcases ih with hlt | hall
    · rcases Nat.lt_or_ge (traverse next first n).met.length
        (traverse next first (n + 1)).met.length with hless | hsame
      · exact .inl (Nat.lt_of_le_of_lt hlt hless)
      · -- nothing new was met, so what was met is closed
        have hmet := met_succ next first n
        rw [← hgrows.eq_of_length_le hsame] at hmet ⊢
        have hmem : ∀ b ∈ first ++ (traverse next first n).met.flatMap next,
            b ∈ (traverse next first n).met := fun b hb => by
          rw [hmet]
          exact List.mem_eraseDups.mpr hb
        refine .inr fun a ha => ha.mem_of_closed (s := {b | b ∈ (traverse next first n).met})
          (fun x hx => hmem x (List.mem_append_left _ hx)) fun b hb c hc => ?_
        exact hmem c (List.mem_append_right _ (List.mem_flatMap.mpr ⟨b, hb, hc⟩))
    · exact .inr fun a ha => hgrows.subset (hall a ha)

end Rounds

/-! ### A visit is the beginning of a traversal -/

/-- What the rounds have met, as far as there is room for it, has been visited in that order. -/
theorem take_met_isPrefix_visit (room n : ℕ) :
    (traverse next first n).met.take room <+: visit next room [] first := by
  have hvisit := visit_eq_take next room [] first
  rw [List.removeAll_nil] at hvisit
  induction n with
  | zero =>
    rw [hvisit]
    exact (isPrefix_eraseDups (List.prefix_append _ _)).take room
  | succ n ih =>
    rcases Nat.le_total (traverse next first n).met.length room with hfits | hfull
    · -- all that was met has been visited, so what it leads to was queued, in the same order
      rw [List.take_of_length_le hfits] at ih
      rw [met_succ, hvisit]
      refine (isPrefix_eraseDups ?_).take room
      exact (List.prefix_append_right_inj first).mpr (ih.flatMap next)
    · -- there is no room for what the round adds
      obtain ⟨fresh, hfresh⟩ := met_isPrefix_succ next first n
      rw [← hfresh, List.take_append_of_le_length hfull]
      exact ih

/-- **A visit is the beginning of the traversal by rounds**, as far as there is room. -/
theorem visit_eq_take_met {n : ℕ} (h : room ≤ n) :
    visit next room [] first = (traverse next first n).met.take room := by
  have hbegins := take_met_isPrefix_visit next first room n
  refine (hbegins.eq_of_length_le ?_).symm
  rw [List.length_take]
  have hroom := length_visit_le next room [] first
  rcases lt_length_met_or_complete next first n with hlt | hall
  · omega
  · -- everything was met, so no more can have been visited
    have hsub : visit next room [] first ⊆ (traverse next first n).met := fun a ha =>
      hall a (reached_of_mem_visit next (fun x hx => reached_of_mem hx) ha)
    have hlength := ((nodup_visit next room [] first).subperm hsub).length_le
    omega

/-- **Where there is room for all reachable names, all are visited**, and the rounds have met all
of them as well. -/
theorem visit_eq_met {n : ℕ} (hfew : {a | Reached next first a}.encard ≤ room) (h : room ≤ n) :
    visit next room [] first = (traverse next first n).met ∧
      ∀ a, a ∈ (traverse next first n).met ↔ Reached next first a := by
  have hfits : (traverse next first n).met.length ≤ room :=
    length_le_of_encard_le (nodup_met next first n) (fun _ => reached_of_mem_met) hfew
  refine ⟨(visit_eq_take_met next first h).trans (List.take_of_length_le hfits), fun a => ?_⟩
  refine ⟨reached_of_mem_met, fun ha => ?_⟩
  rcases lt_length_met_or_complete next first n with hlt | hall
  · omega
  · exact hall a ha

end Visits

end PlatformAudit.Detect
