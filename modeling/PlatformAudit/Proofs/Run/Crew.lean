import Mathlib.Data.List.Basic
import PlatformAudit.Proofs.Run.Stopping

/-!
# Rules at once, unit by unit

In the runs of `PlatformAudit.runAtOnce` the tasks of the rules overlap, but what a
task does is settled when it begins. For a rule that `PlatformAudit.scanUnits` drives
this is too coarse in one respect: such a rule asks before every unit whether the run
is cancelled, so it also stops for a cancellation by another rule that comes while it
is at work. This file lets such rules work unit by unit, in three steps for each: the
rule asks whether the run is cancelled, it is called on the unit, and the call returns,
perhaps having cancelled the run. A **crew** (`PlatformAudit.Crew`) is a number of rules at
work, some unit by unit and some as a whole, in any interleaving, and it keeps a record of
the calls of rules on units.

Between the asking and the call another rule may cancel the run. A rule that was let
through to a unit by then is called on it all the same.

* `PlatformAudit.Crew.looks_run_of_cancelled`: once a run is cancelled, by whomever, a rule
  is called only on the unit that it was let through to before, if there is one.
* `PlatformAudit.Crew.looks_run_in_turn`: if rules work one after the other, no rule is
  called on a further unit at all.
* `PlatformAudit.Crew.run_alone`: a rule that is alone works through its units as
  `PlatformAudit.scanUnits` says.
* `PlatformAudit.Crew.cancelled_of_enough`, `PlatformAudit.Crew.settled_of_enough`: a crew
  comes to the same as the rules of a run do. So nothing that is known about runs is
  lost by taking the larger steps.

## Why the larger steps do

As long as nobody cancels, a crew **tracks** a run of tasks (`PlatformAudit.Crew.Tracks`):
a rule that has worked through some of its units stands where a task does whose result
is what the rest of the units would add if the rule were left alone
(`PlatformAudit.resume`). To go through a unit then changes nothing, to begin and to end
are steps of the task, and a unit at which the rule cancels is one that its task was going
to cancel at. What is known about tasks at every step carries over
(`PlatformAudit.Crew.Tracks.run`). A crew that is cancelled tracks nothing any more, and
need not: a cancelled run has no results.
-/

namespace PlatformAudit

open Code

/-! ### Scans that have begun -/

/-- What a scan comes to that has found something already and goes on with some units. -/
def resume (inspect : LoadedUnit → Inspection) (rest : List LoadedUnit) (found : Outcome)
    (cancelled : Bool) : RuleResult × Bool :=
  match scanUnits inspect rest cancelled with
  | (.done more, cancelled) => (.done (found.append more), cancelled)
  | stopped => stopped

section Resume

variable (inspect : LoadedUnit → Inspection) (u : LoadedUnit) (us : List LoadedUnit)
  (found : Outcome)

theorem resume_nil (cancelled : Bool) :
    resume inspect [] found cancelled = (.done found, cancelled) := by
  simp [resume, scanUnits, Outcome.append]

/-- A scan begins with nothing found. -/
theorem resume_empty (units : List LoadedUnit) (cancelled : Bool) :
    resume inspect units {} cancelled = scanUnits inspect units cancelled := by
  rw [resume]
  split
  next more after h => rw [h]; simp [Outcome.append]
  next => rfl

/-- A step of a scan. -/
theorem resume_cons_false : resume inspect (u :: us) found false =
    resume inspect us (found.append ((inspect u).outcome u.unit.path)) (inspect u).cancels := by
  rw [resume, scanUnits, resume]
  rcases scanUnits inspect us (inspect u).cancels with ⟨result, after⟩
  cases result <;> simp [Outcome.append]

/-- A scan in a cancelled run leaves it cancelled. -/
theorem resume_true_snd (units : List LoadedUnit) :
    (resume inspect units found true).2 = true := by
  cases units with
  | nil => rw [resume_nil]
  | cons u us => rfl

end Resume

/-! ### The work of one rule -/

/-- A rule, and the way in which it works: as a whole, or, if `scanUnits` drives it, unit by
unit. -/
structure Worker where
  rule : Rule
  /-- What the rule makes of a unit, if it works unit by unit. -/
  inspect? : Option (LoadedUnit → Inspection) := none
  analyze_eq : ∀ inspect ∈ inspect?, ∀ model cancelled,
    rule.analyze model cancelled = scanUnits inspect model.units cancelled

/-- Where the work of a rule stands. -/
inductive WorkState where
  | task (state : TaskState)
  /-- The rule has worked through some units and found something; the rest is still to come. -/
  | scanning (inspect : LoadedUnit → Inspection) (rest : List LoadedUnit) (found : Outcome)
  /-- The rule has asked whether the run is cancelled, and is about to be called on a unit. -/
  | letThrough (inspect : LoadedUnit → Inspection) (u : LoadedUnit) (rest : List LoadedUnit)
    (found : Outcome)
  /-- The rule was called on a unit, and the call has not returned. -/
  | looking (inspect : LoadedUnit → Inspection) (u : LoadedUnit) (rest : List LoadedUnit)
    (found : Outcome)

/-- What a step of work comes to. -/
structure WorkStep where
  state : WorkState
  cancelled : Bool
  /-- The unit that the rule was called on, and what it made of it. -/
  call? : Option (LoadedUnit × Inspection) := none

namespace WorkState

/-- Moves on the work of a rule. A rule that works unit by unit takes three steps for a unit: it
asks whether the run is cancelled, it is called on the unit, and the call returns. -/
def next (w : Worker) (model : LoadedModel) (cancelled : Bool) : WorkState → WorkStep
  | .scanning _ [] found => { state := .task (.ended (.done found)), cancelled }
  | .scanning inspect (u :: us) found =>
    if cancelled then { state := .task (.ended .cancelled), cancelled }
    else { state := .letThrough inspect u us found, cancelled }
  | .letThrough inspect u us found =>
    { state := .looking inspect u us found, cancelled, call? := some (u, inspect u) }
  | .looking inspect u us found =>
    { state := .scanning inspect us (found.append ((inspect u).outcome u.unit.path))
      cancelled := cancelled || (inspect u).cancels }
  | .task state =>
    match state, w.inspect? with
    | .pending, some inspect => { state := .scanning inspect model.units {}, cancelled }
    | _, _ =>
      { state := .task (state.next w.rule model cancelled).1
        cancelled := (state.next w.rule model cancelled).2 }

/-- The result of the work, or that there is none. -/
def settled : WorkState → Settled
  | .task state => state.settled
  | _ => TaskState.pending.settled

/-- The unit that the rule was let through to, if it was not called on it yet. -/
def admitted? : WorkState → Option LoadedUnit
  | .letThrough _ u _ _ => some u
  | _ => none

/-- How many more steps the work takes at most. -/
def remaining (model : LoadedModel) : WorkState → Nat
  | .task .pending => 3 * model.units.length + 3
  | .task state => 3 - state.progress
  | .scanning _ rest _ => 3 * rest.length + 2
  | .letThrough _ _ rest _ => 3 * rest.length + 4
  | .looking _ _ rest _ => 3 * rest.length + 3

variable {model : LoadedModel} {w : Worker} {state : WorkState}

/-- A task that has not begun may begin a scan; otherwise it takes a step of its own. -/
theorem next_task (w : Worker) (model : LoadedModel) (cancelled : Bool) (s : TaskState) :
    (∃ inspect ∈ w.inspect?, s = .pending ∧
      (WorkState.task s).next w model cancelled =
        { state := .scanning inspect model.units {}, cancelled }) ∨
      (WorkState.task s).next w model cancelled =
        { state := .task (s.next w.rule model cancelled).1
          cancelled := (s.next w.rule model cancelled).2 } := by
  rcases hw : w.inspect? with _ | inspect
  · right
    cases s <;> simp [next, hw]
  · cases s with
    | pending => exact Or.inl ⟨inspect, rfl, rfl, by simp [next, hw]⟩
    | _ => right; rfl

/-- A cancelled run remains cancelled. -/
theorem next_cancelled (w : Worker) (model : LoadedModel) (state : WorkState) :
    (state.next w model true).cancelled = true := by
  cases state with
  | scanning inspect rest found => cases rest <;> rfl
  | letThrough inspect u rest found => rfl
  | looking inspect u rest found => exact Bool.true_or (inspect u).cancels
  | task s =>
    rcases next_task w model true s with ⟨inspect, -, -, hnext⟩ | hnext
    · rw [hnext]
    · rw [hnext]
      exact TaskState.next_cancelled w.rule s

/-- A rule is called on a unit only if it was let through to it. -/
theorem admitted?_of_call {call : LoadedUnit × Inspection} {cancelled : Bool}
    (h : (state.next w model cancelled).call? = some call) : state.admitted? = some call.1 := by
  cases state with
  | scanning inspect rest found => cases rest <;> cases cancelled <;> cases h
  | letThrough inspect u rest found =>
    cases h
    rfl
  | looking inspect u rest found => cases h
  | task s =>
    rcases next_task w model cancelled s with ⟨inspect, -, -, hnext⟩ | hnext
    · rw [hnext] at h
      cases h
    · rw [hnext] at h
      cases h

/-- **A rule is let through to a unit only as long as the run is not cancelled.** -/
theorem quiet_of_admitted? {u : LoadedUnit} {cancelled : Bool}
    (h : (state.next w model cancelled).state.admitted? = some u) :
    cancelled = false ∧ (state.next w model cancelled).cancelled = false := by
  cases state with
  | scanning inspect rest found =>
    cases rest with
    | nil => cases h
    | cons u us =>
      cases cancelled with
      | true => cases h
      | false => exact ⟨rfl, rfl⟩
  | letThrough inspect u rest found => cases h
  | looking inspect u rest found => cases h
  | task s =>
    rcases next_task w model cancelled s with ⟨inspect, -, -, hnext⟩ | hnext
    · rw [hnext] at h
      cases h
    · rw [hnext] at h
      cases h

/-- Every step leaves less to do. -/
theorem remaining_next (w : Worker) (model : LoadedModel) (cancelled : Bool) (state : WorkState) :
    (state.next w model cancelled).state.remaining model ≤ state.remaining model - 1 := by
  cases state with
  | scanning inspect rest found =>
    cases rest with
    | nil => simp [next, remaining, TaskState.progress]
    | cons u us =>
      cases cancelled with
      | true => simp [next, remaining, TaskState.progress]
      | false => simp [next, remaining, Nat.mul_add]
  | letThrough inspect u rest found => simp [next, remaining]
  | looking inspect u rest found => simp [next, remaining]
  | task s =>
    rcases next_task w model cancelled s with ⟨inspect, -, rfl, hnext⟩ | hnext
    · rw [hnext]
      simp [remaining]
    · rw [hnext]
      cases s <;> simp [remaining, TaskState.next, TaskState.progress]

theorem eq_collected_of_remaining (h : state.remaining model = 0) :
    ∃ s, state = .task (.collected s) := by
  cases state with
  | task s =>
    cases s with
    | collected s => exact ⟨s, rfl⟩
    | _ => simp [remaining, TaskState.progress] at h
  | _ => simp [remaining] at h

/-- The task that the work of a rule amounts to in a run that nobody cancels. -/
def asTask : WorkState → TaskState
  | .task state => state
  | .scanning inspect rest found =>
    .running (resume inspect rest found false).1 (resume inspect rest found false).2
  | .letThrough inspect u rest found | .looking inspect u rest found =>
    .running (resume inspect (u :: rest) found false).1 (resume inspect (u :: rest) found false).2

/-- **What a step of work is to the task**: it cancels the run as the task was going to, or it
leaves the task where it is, or it is a step of the task. -/
theorem asTask_next (w : Worker) (model : LoadedModel) (state : WorkState) :
    (state.next w model false).cancelled = true ∧ (∃ result, state.asTask = .running result true) ∨
      (state.next w model false).cancelled = false ∧
        ((state.next w model false).state.asTask = state.asTask ∨
          state.asTask.next w.rule model false =
            ((state.next w model false).state.asTask, false)) := by
  cases state with
  | scanning inspect rest found =>
    cases rest with
    | nil => exact Or.inr ⟨rfl, Or.inr (by rw [asTask, resume_nil]; rfl)⟩
    | cons u us => exact Or.inr ⟨rfl, Or.inl rfl⟩
  | letThrough inspect u rest found => exact Or.inr ⟨rfl, Or.inl rfl⟩
  | looking inspect u rest found =>
    cases hcancels : (inspect u).cancels with
    | true =>
      refine Or.inl ⟨hcancels, (resume inspect (u :: rest) found false).1, ?_⟩
      rw [asTask, resume_cons_false, hcancels, resume_true_snd]
    | false =>
      refine Or.inr ⟨hcancels, Or.inl ?_⟩
      rw [asTask, resume_cons_false, hcancels]
      rfl
  | task s =>
    rcases next_task w model false s with ⟨inspect, hinspect, rfl, hnext⟩ | hnext
    · rw [hnext]
      refine Or.inr ⟨rfl, Or.inr ?_⟩
      rw [asTask, asTask, resume_empty, TaskState.next, w.analyze_eq inspect hinspect]
    · rw [hnext]
      cases hcancelled : (s.next w.rule model false).2 with
      | false => exact Or.inr ⟨rfl, Or.inr (Prod.ext rfl hcancelled)⟩
      | true =>
        -- only a task that is at work and is to cancel the run does so
        cases s with
        | running result cancels =>
          obtain rfl : cancels = true := hcancelled
          exact Or.inl ⟨rfl, result, rfl⟩
        | _ => cases hcancelled

end WorkState

/-! ### All rules together -/

/-- A call of a rule that works unit by unit. -/
structure Look where
  /-- The index of the rule. -/
  rule : Nat
  unit : LoadedUnit
  made : Inspection

/-- A number of rules at work. -/
structure Crew where
  workers : List (Worker × WorkState)
  /-- The calls of rules on units, in the order in which they were made. -/
  looks : List Look := []
  cancelled : Bool

namespace Crew

variable {model : LoadedModel} {c : Crew} {w : Worker} {state : WorkState} {i j : Nat}

/-- Rules before any of them has begun. -/
def ofWorkers (workers : List Worker) (cancelled : Bool) : Crew :=
  { workers := workers.map fun w => (w, .task .pending), cancelled }

/-- Moves on the work of the rule at an index. -/
def step (model : LoadedModel) (c : Crew) (i : Nat) : Crew :=
  match c.workers[i]? with
  | none => c
  | some (w, state) =>
    let next := state.next w model c.cancelled
    { workers := c.workers.set i (w, next.state)
      looks := c.looks ++ next.call?.toList.map fun call => ⟨i, call.1, call.2⟩
      cancelled := next.cancelled }

/-- Moves on the work of rules in the order of some steps. -/
def run (model : LoadedModel) (c : Crew) (steps : List Nat) : Crew :=
  steps.foldl (step model) c

theorem run_append (c : Crew) (steps more : List Nat) :
    c.run model (steps ++ more) = (c.run model steps).run model more :=
  List.foldl_append

/-- **What a step does**: nothing where there is no rule, and otherwise it moves on
the work of that rule. -/
theorem step_cases (model : LoadedModel) (c : Crew) (i : Nat) :
    c.workers[i]? = none ∧ c.step model i = c ∨
      ∃ w state, c.workers[i]? = some (w, state) ∧
        c.step model i =
          { workers := c.workers.set i (w, (state.next w model c.cancelled).state)
            looks := c.looks ++ (state.next w model c.cancelled).call?.toList.map
              fun call => ⟨i, call.1, call.2⟩
            cancelled := (state.next w model c.cancelled).cancelled } := by
  rcases h : c.workers[i]? with _ | ⟨w, state⟩
  · exact Or.inl ⟨rfl, by simp only [step, h]⟩
  · exact Or.inr ⟨w, state, rfl, by simp only [step, h]⟩

/-- A step leaves the work of the other rules where it is. -/
theorem workers_step_of_ne (h : i ≠ j) : (c.step model i).workers[j]? = c.workers[j]? := by
  rcases step_cases model c i with ⟨-, hstep⟩ | ⟨w, state, -, hstep⟩
  · rw [hstep]
  · rw [hstep]
    exact List.getElem?_set_ne h

theorem workers_step_self (h : c.workers[i]? = some (w, state)) :
    (c.step model i).workers[i]? = some (w, (state.next w model c.cancelled).state) := by
  have hi : i < c.workers.length := (List.getElem?_eq_some_iff.mp h).1
  simp only [step, h]
  exact List.getElem?_set_self hi

/-- What every step keeps, every run keeps. -/
theorem run_induction {P : Crew → Prop} (hstep : ∀ c i, P c → P (c.step model i))
    (steps : List Nat) (h : P c) : P (c.run model steps) := by
  induction steps generalizing c with
  | nil => exact h
  | cons i steps ih => exact ih (hstep c i h)

/-! ### Calls -/

theorem cancelled_step (model : LoadedModel) (h : c.cancelled = true) (i : Nat) :
    (c.step model i).cancelled = true := by
  rcases step_cases model c i with ⟨-, hstep⟩ | ⟨w, state, -, hstep⟩
  · rwa [hstep]
  · rw [hstep, h]
    exact WorkState.next_cancelled w model state

/-- A cancelled run remains cancelled. -/
theorem cancelled_run (h : c.cancelled = true) (steps : List Nat) :
    (c.run model steps).cancelled = true :=
  run_induction (P := fun d => d.cancelled = true) (fun _ i hd => cancelled_step model hd i) steps h

/-- A rule has asked whether the run is cancelled and was let through to a unit, and it was not
called on that unit yet. -/
def LetThrough (c : Crew) (i : Nat) (u : LoadedUnit) : Prop :=
  (c.workers[i]?.bind fun worker => worker.2.admitted?) = some u

theorem LetThrough.admitted? {u : LoadedUnit} (h : c.LetThrough i u) :
    (c.workers.map fun worker => worker.2.admitted?)[i]? = some (some u) := by
  obtain ⟨worker, hworker, hu⟩ := Option.bind_eq_some_iff.mp h
  rw [List.getElem?_map, hworker, Option.map_some, hu]

/-- A rule is let through by a step of its own, in a run that is not cancelled. -/
theorem LetThrough.of_step {u : LoadedUnit} (h : (c.step model i).LetThrough j u) :
    i = j ∧ c.cancelled = false ∧ (c.step model i).cancelled = false ∨
      i ≠ j ∧ c.LetThrough j u := by
  by_cases hij : i = j
  · subst hij
    rcases step_cases model c i with ⟨hnone, hstep⟩ | ⟨w, state, hstate, hstep⟩
    · rw [LetThrough, hstep, hnone] at h
      cases h
    · rw [LetThrough, workers_step_self hstate] at h
      obtain ⟨hbefore, hafter⟩ := WorkState.quiet_of_admitted? h
      exact Or.inl ⟨rfl, hbefore, hstep ▸ hafter⟩
  · rw [LetThrough, workers_step_of_ne hij] at h
    exact Or.inr ⟨hij, h⟩

/-- A step makes no call, or one that its rule was let through to. -/
theorem looks_step (model : LoadedModel) (c : Crew) (i : Nat) :
    (c.step model i).looks = c.looks ∨
      ∃ look : Look, look.rule = i ∧ c.LetThrough i look.unit ∧
        (c.step model i).looks = c.looks ++ [look] := by
  rcases step_cases model c i with ⟨-, hstep⟩ | ⟨w, state, hworker, hstep⟩
  · exact Or.inl (by rw [hstep])
  · rcases hcall : (state.next w model c.cancelled).call? with _ | call
    · refine Or.inl ?_
      rw [hstep, hcall]
      exact List.append_nil _
    · refine Or.inr ⟨⟨i, call.1, call.2⟩, rfl, ?_, ?_⟩
      · rw [LetThrough, hworker]
        exact WorkState.admitted?_of_call hcall
      · rw [hstep, hcall]
        rfl

/-- **Once a run is cancelled, a rule is called only on the unit that it was let through to
before**, so at most once, and only if it still takes a step. -/
theorem looks_run_of_cancelled (h : c.cancelled = true) (steps : List Nat) :
    ∃ late, (c.run model steps).looks = c.looks ++ late ∧ (late.map (·.rule)).Nodup ∧
      ∀ look ∈ late, look.rule ∈ steps ∧ c.LetThrough look.rule look.unit := by
  induction steps generalizing c with
  | nil => exact ⟨[], (List.append_nil _).symm, List.nodup_nil, by simp⟩
  | cons i steps ih =>
    obtain ⟨late, hlooks, hnodup, hlate⟩ := ih (cancelled_step model h i)
    -- the rule that took the step is not let through any more, and the others as before
    have hothers : ∀ look ∈ late, look.rule ∈ steps ∧ i ≠ look.rule ∧
        c.LetThrough look.rule look.unit := by
      intro look hlook
      obtain ⟨hmem, hthrough⟩ := hlate look hlook
      rcases hthrough.of_step with ⟨-, hquiet, -⟩ | ⟨hne, hbefore⟩
      · rw [h] at hquiet
        cases hquiet
      · exact ⟨hmem, hne, hbefore⟩
    rcases looks_step model c i with hsame | ⟨look, hrule, hthrough, hlook⟩
    · refine ⟨late, hlooks.trans (by rw [hsame]), hnodup, fun look hlook => ?_⟩
      obtain ⟨hmem, -, hbefore⟩ := hothers look hlook
      exact ⟨List.mem_cons_of_mem i hmem, hbefore⟩
    · refine ⟨look :: late, hlooks.trans (by rw [hlook, List.append_assoc]; rfl), ?_, ?_⟩
      · refine List.nodup_cons.mpr ⟨fun hmem => ?_, hnodup⟩
        obtain ⟨other, hother, heq⟩ := List.mem_map.mp hmem
        exact (hothers other hother).2.1 (hrule.symm.trans heq.symm)
      · refine List.forall_mem_cons.mpr ⟨⟨hrule ▸ List.mem_cons_self .., hrule ▸ hthrough⟩, ?_⟩
        intro other hother
        obtain ⟨hmem, -, hbefore⟩ := hothers other hother
        exact ⟨List.mem_cons_of_mem i hmem, hbefore⟩

/-- Rules work one after the other if the steps of each come before those of the next ones. -/
def InTurn (steps : List Nat) : Prop :=
  steps.Pairwise (· ≤ ·)

/-- A rule that was let through took a step, or it was let through from the beginning. -/
theorem LetThrough.of_run {u : LoadedUnit} {steps : List Nat}
    (h : (c.run model steps).LetThrough j u) : j ∈ steps ∨ c.LetThrough j u := by
  induction steps generalizing c with
  | nil => exact Or.inr h
  | cons i steps ih =>
    rcases ih h with hmem | hstep
    · exact Or.inl (List.mem_cons_of_mem i hmem)
    · rcases hstep.of_step with ⟨rfl, -⟩ | ⟨-, hbefore⟩
      · exact Or.inl (List.mem_cons_self ..)
      · exact Or.inr hbefore

theorem not_letThrough_ofWorkers {u : LoadedUnit} (workers : List Worker) (cancelled : Bool) :
    ¬(ofWorkers workers cancelled).LetThrough j u := by
  rw [LetThrough, ofWorkers, List.getElem?_map]
  cases workers[j]? <;> exact (Option.some_ne_none u).symm

/-- **If rules work one after the other, no rule is called on a further unit once the run is
cancelled.** -/
theorem looks_run_in_turn {workers : List Worker} {cancelled : Bool} {steps more : List Nat}
    (hturn : InTurn (steps ++ more))
    (h : ((ofWorkers workers cancelled).run model steps).cancelled = true) :
    ((ofWorkers workers cancelled).run model (steps ++ more)).looks =
      ((ofWorkers workers cancelled).run model steps).looks := by
  obtain ⟨late, hlooks, -, hlate⟩ := looks_run_of_cancelled h more
  rw [run_append, hlooks]
  cases late with
  | nil => exact List.append_nil _
  | cons look late =>
    exfalso
    obtain ⟨hmem, hthrough⟩ := hlate look (List.mem_cons_self ..)
    have hsteps := hthrough.of_run.resolve_right (not_letThrough_ofWorkers workers cancelled)
    -- the rule took the last step so far, and it was let through by that step
    rcases List.eq_nil_or_concat' steps with rfl | ⟨earlier, i, rfl⟩
    · cases hsteps
    · obtain ⟨hpairwise, -, hle⟩ := List.pairwise_append.mp hturn
      have hi : i ∈ earlier ++ [i] := List.mem_append_right _ (List.mem_singleton_self i)
      have hlast : look.rule ≤ i := by
        rcases List.mem_append.mp hsteps with hearlier | hself
        · exact (List.pairwise_append.mp hpairwise).2.2 _ hearlier i (List.mem_singleton_self i)
        · exact Nat.le_of_eq (List.mem_singleton.mp hself)
      rw [run_append] at h hthrough
      rcases LetThrough.of_step hthrough with ⟨-, -, hquiet⟩ | ⟨hne, -⟩
      · exact Bool.false_ne_true (hquiet.symm.trans h)
      · exact hne (Nat.le_antisymm (hle i hi look.rule hmem) hlast)

/-! ### A rule alone -/

/-- The units that a scan is called on. -/
def takenUp (inspect : LoadedUnit → Inspection) (cancelled : Bool) (units : List LoadedUnit) :
    List LoadedUnit :=
  untilCancelled (fun u => (inspect u).cancels) cancelled units

/-- What a rule does with a unit when no other rule is at work and nobody has cancelled. -/
theorem run_unit (model : LoadedModel) (w : Worker) (inspect : LoadedUnit → Inspection)
    (u : LoadedUnit) (us : List LoadedUnit) (found : Outcome) (looks : List Look) :
    Crew.run model
        { workers := [(w, .scanning inspect (u :: us) found)], looks, cancelled := false }
        [0, 0, 0] =
      { workers := [(w, .scanning inspect us (found.append ((inspect u).outcome u.unit.path)))]
        looks := looks ++ [⟨0, u, inspect u⟩]
        cancelled := (inspect u).cancels } := by
  simp [run, step, WorkState.next]

/-- What a rule does with the rest of its units when no other rule is at work. -/
theorem run_scanning (model : LoadedModel) (w : Worker) (inspect : LoadedUnit → Inspection)
    (rest : List LoadedUnit) (found : Outcome) (looks : List Look) (cancelled : Bool) :
    Crew.run model { workers := [(w, .scanning inspect rest found)], looks, cancelled }
        (List.replicate (3 * (takenUp inspect cancelled rest).length + 1) 0) =
      { workers := [(w, .task (.ended (resume inspect rest found cancelled).1))]
        looks := looks ++ (takenUp inspect cancelled rest).map fun u => ⟨0, u, inspect u⟩
        cancelled := (resume inspect rest found cancelled).2 } := by
  induction rest generalizing found looks cancelled with
  | nil =>
    rw [takenUp, untilCancelled_nil, resume_nil]
    rfl
  | cons u us ih =>
    cases cancelled with
    | true => rfl
    | false =>
      have htaken : takenUp inspect false (u :: us) = u :: takenUp inspect (inspect u).cancels us :=
        rfl
      have hsteps (n : Nat) : List.replicate (3 * (n + 1) + 1) 0 =
          [0, 0, 0] ++ List.replicate (3 * n + 1) 0 :=
        List.replicate_add 3 (3 * n + 1) 0 ▸ congrArg (List.replicate · 0) (by omega)
      rw [htaken, resume_cons_false, List.length_cons, hsteps, run_append, run_unit, ih,
        List.map_cons, List.append_assoc]
      rfl

/-- **A rule that works alone** is called on its units in order until one of these calls cancels
the run, and ends as a scan of all units does. -/
theorem run_alone (model : LoadedModel) {inspect : LoadedUnit → Inspection}
    (hinspect : w.inspect? = some inspect) (cancelled : Bool) :
    (ofWorkers [w] cancelled).run model
        (List.replicate (3 * (takenUp inspect cancelled model.units).length + 2) 0) =
      { workers := [(w, .task (.ended (scanUnits inspect model.units cancelled).1))]
        looks := (takenUp inspect cancelled model.units).map fun u => ⟨0, u, inspect u⟩
        cancelled := (scanUnits inspect model.units cancelled).2 } := by
  have hbegin : (ofWorkers [w] cancelled).step model 0 =
      { workers := [(w, .scanning inspect model.units {})], cancelled } := by
    simp [ofWorkers, step, WorkState.next, hinspect]
  have hscan := run_scanning model w inspect model.units {} [] cancelled
  rw [resume_empty, List.nil_append, ← hbegin] at hscan
  exact hscan

/-! ### How long a crew takes -/

theorem rules_step (c : Crew) (i : Nat) :
    (c.step model i).workers.map Prod.fst = c.workers.map Prod.fst := by
  rcases step_cases model c i with ⟨-, hstep⟩ | ⟨w, state, hworker, hstep⟩
  · rw [hstep]
  · obtain ⟨hi, hget⟩ := List.getElem?_eq_some_iff.mp hworker
    rw [hstep]
    refine List.ext_getElem? fun j => ?_
    by_cases hij : i = j
    · subst hij
      simp [hi, hget]
    · simp [List.getElem?_set_ne hij]

theorem rules_run_ofWorkers (model : LoadedModel) (workers : List Worker) (cancelled : Bool)
    (steps : List Nat) :
    ((ofWorkers workers cancelled).run model steps).workers.map Prod.fst = workers := by
  refine run_induction (P := fun c => c.workers.map Prod.fst = workers)
    (fun c i h => (rules_step c i).trans h) steps ?_
  rw [ofWorkers, List.map_map]
  exact List.map_id workers

theorem workers_ofWorkers (workers : List Worker) (cancelled : Bool) (i : Nat) :
    (ofWorkers workers cancelled).workers[i]? = workers[i]?.map fun w => (w, .task .pending) :=
  List.getElem?_map

/-- **Every occurrence of its index** leaves a rule with less to do. -/
theorem remaining_run {steps : List Nat} (h : (c.run model steps).workers[j]? = some (w, state)) :
    ∃ before, c.workers[j]? = some (w, before) ∧
      state.remaining model ≤ before.remaining model - steps.count j := by
  induction steps generalizing c with
  | nil => exact ⟨state, h, Nat.le_refl _⟩
  | cons i steps ih =>
    obtain ⟨after, hafter, hle⟩ := ih (c := c.step model i) h
    by_cases hij : i = j
    · subst hij
      rcases step_cases model c i with ⟨hnone, hstep⟩ | ⟨w', before, hworker, -⟩
      · rw [hstep, hnone] at hafter
        cases hafter
      · rw [workers_step_self hworker] at hafter
        cases hafter
        have hless := WorkState.remaining_next w model c.cancelled before
        refine ⟨before, hworker, ?_⟩
        rw [List.count_cons_self]
        omega
    · rw [workers_step_of_ne hij] at hafter
      rw [List.count_cons_of_ne hij]
      exact ⟨after, hafter, hle⟩

/-- Steps that let each of `n` rules finish. -/
def Enough (model : LoadedModel) (n : Nat) (steps : List Nat) : Prop :=
  ∀ i < n, 3 * model.units.length + 3 ≤ steps.count i

variable {workers : List Worker} {cancelled : Bool} {steps : List Nat}

/-- With enough steps, **every result is collected**. -/
theorem collected_of_enough (hsteps : Enough model workers.length steps)
    (h : ((ofWorkers workers cancelled).run model steps).workers[i]? = some (w, state)) :
    ∃ s, state = .task (.collected s) := by
  obtain ⟨before, hbefore, hle⟩ := remaining_run h
  rw [workers_ofWorkers] at hbefore
  obtain ⟨w', hw', heq⟩ := Option.map_eq_some_iff.mp hbefore
  cases heq
  have henough := hsteps i (List.getElem?_eq_some_iff.mp hw').1
  have hpending : (WorkState.task .pending).remaining model = 3 * model.units.length + 3 := rfl
  have hdone : state.remaining model = 0 := by omega
  exact WorkState.eq_collected_of_remaining hdone

/-! ### What a crew tracks -/

/-- The tasks that a crew amounts to in a run that nobody cancels. -/
def tasks (c : Crew) : List (Rule × TaskState) :=
  c.workers.map fun p => (p.1.rule, p.2.asTask)

/-- A crew that nobody has cancelled, and a run of tasks that stands where it does. -/
structure Tracks (c : Crew) (t : Tasks) : Prop where
  crew_quiet : c.cancelled = false
  tasks_quiet : t.cancelled = false
  tasks_eq : t.tasks = c.tasks

variable {t : Tasks}

theorem Tracks.task (h : c.Tracks t) (hworker : c.workers[i]? = some (w, state)) :
    t.tasks[i]? = some (w.rule, state.asTask) := by
  rw [h.tasks_eq, tasks, List.getElem?_map, hworker, Option.map_some]

/-- After a step the crew is cancelled, by a task that was going to do so, or it tracks the tasks
as they were or after the same step. -/
theorem Tracks.step (h : c.Tracks t) (model : LoadedModel) (i : Nat) :
    (c.step model i).cancelled = true ∧
        (∃ rule result, t.tasks[i]? = some (rule, .running result true)) ∨
      (c.step model i).Tracks t ∨ (c.step model i).Tracks (t.step model i) := by
  rcases step_cases model c i with ⟨-, hstep⟩ | ⟨w, state, hworker, hstep⟩
  · rw [hstep]
    exact Or.inr (Or.inl h)
  · have htask := h.task hworker
    have hset : ∀ next, (c.workers.set i (w, next)).map (fun p => (p.1.rule, p.2.asTask)) =
        t.tasks.set i (w.rule, next.asTask) := by
      intro next
      rw [List.map_set, h.tasks_eq, tasks]
    rw [hstep, h.crew_quiet]
    rcases state.asTask_next w model with ⟨hcancelled, result, hrunning⟩ | ⟨hquiet, hsame | hnext⟩
    · exact Or.inl ⟨hcancelled, w.rule, result, hrunning ▸ htask⟩
    · refine Or.inr (Or.inl ⟨hquiet, h.tasks_quiet, ?_⟩)
      rw [tasks, hset, hsame]
      obtain ⟨hi, hget⟩ := List.getElem?_eq_some_iff.mp htask
      rw [← hget, List.set_getElem_self]
    · refine Or.inr (Or.inr ⟨hquiet, ?_, ?_⟩)
      · rw [Tasks.cancelled_step htask, h.tasks_quiet, hnext]
      · simp only [Tasks.step, htask, h.tasks_quiet, hnext]
        exact (hset _).symm

/-- **What every step of tasks keeps, holds of the tasks that a crew tracks**, or of those that it
tracked before it was cancelled. -/
theorem Tracks.run {P : Tasks → Prop} (hstep : ∀ t i, P t → P (t.step model i)) (h : c.Tracks t)
    (ht : P t) (steps : List Nat) :
    ((c.run model steps).cancelled = true ∧
        ∃ (t : Tasks) (i : Nat) (rule : Rule) (result : RuleResult), P t ∧
          t.tasks[i]? = some (rule, .running result true)) ∨
      ∃ t, P t ∧ (c.run model steps).Tracks t := by
  induction steps generalizing c t with
  | nil => exact Or.inr ⟨t, ht, h⟩
  | cons i steps ih =>
    rcases h.step model i with ⟨hcancelled, hrunning⟩ | hsame | hnext
    · obtain ⟨rule, result, htask⟩ := hrunning
      exact Or.inl ⟨cancelled_run hcancelled steps, t, i, rule, result, ht, htask⟩
    · exact ih hsame ht
    · exact ih hnext (hstep t i ht)

theorem tracks_ofWorkers (workers : List Worker) :
    (ofWorkers workers false).Tracks (Tasks.ofRules (workers.map (·.rule)) false) where
  crew_quiet := rfl
  tasks_quiet := rfl
  tasks_eq := by
    rw [Tasks.ofRules, tasks, ofWorkers, List.map_map, List.map_map]
    rfl

/-! ### What a crew comes to -/

/-- If no rule cancels, a crew tracks tasks that are on the way to the verdicts of their rules. -/
theorem tracks_of_quiet (hquiet : (workers.map (·.rule)).any (Rule.cancels model) = false)
    (steps : List Nat) :
    ∃ t : Tasks, t.Undisturbed model ∧
      ((ofWorkers workers false).run model steps).Tracks t := by
  rcases (tracks_ofWorkers workers).run (fun _ i h => h.step i) (Tasks.undisturbed_ofRules hquiet)
    steps with ⟨-, t, i, rule, result, ⟨-, htasks⟩, htask⟩ | htracks
  · -- a task on its way to cancel the run belongs to a rule that cancels
    obtain ⟨hrule, hheads⟩ := htasks i rule _ htask
    have hanalyze : rule.analyze model false = (result, true) := hheads
    rw [Rule.cancels, hanalyze] at hrule
    cases hrule
  · exact htracks

/-- If a rule cancels, a crew with enough steps ends cancelled. -/
theorem cancelled_of_cancels (hsteps : Enough model workers.length steps) (hw : w ∈ workers)
    (hcancels : w.rule.cancels model = true) :
    ((ofWorkers workers false).run model steps).cancelled = true := by
  obtain ⟨j, hj⟩ := List.mem_iff_getElem?.mp hw
  have hbrewing : (Tasks.ofRules (workers.map (·.rule)) false).Brewing model j := by
    refine Or.inr ⟨w.rule, .pending, ?_, hcancels, trivial⟩
    rw [Tasks.tasks_ofRules, List.getElem?_map, hj, Option.map_some, Option.map_some]
  rcases (tracks_ofWorkers workers).run (fun _ i h => h.step i) hbrewing steps with
    ⟨hcancelled, -⟩ | ⟨t, hbrewing', htracks⟩
  · exact hcancelled
  · -- the task of the rule is collected by now, so it cannot be about to cancel the run
    exfalso
    obtain ⟨rule, state, htask, -, hbrews⟩ := hbrewing'.resolve_left (by simp [htracks.tasks_quiet])
    rw [htracks.tasks_eq, tasks, List.getElem?_map] at htask
    obtain ⟨⟨w', work⟩, hwork, heq⟩ := Option.map_eq_some_iff.mp htask
    obtain ⟨s, rfl⟩ := collected_of_enough hsteps hwork
    cases heq
    exact hbrews

/-- A crew ends cancelled exactly when it began so or one of its rules cancels. -/
theorem cancelled_of_enough (hsteps : Enough model workers.length steps) (cancelled : Bool) :
    ((ofWorkers workers cancelled).run model steps).cancelled =
      (cancelled || (workers.map (·.rule)).any (Rule.cancels model)) := by
  cases cancelled with
  | true => exact cancelled_run rfl steps
  | false =>
    rw [Bool.false_or]
    cases hany : (workers.map (·.rule)).any (Rule.cancels model) with
    | true =>
      rw [List.any_map] at hany
      obtain ⟨w, hw, hcancels⟩ := List.any_eq_true.mp hany
      exact cancelled_of_cancels hsteps hw hcancels
    | false =>
      obtain ⟨t, -, htracks⟩ := tracks_of_quiet hany steps
      exact htracks.crew_quiet

/-- In a run that nobody cancels the results are the verdicts of the rules. -/
theorem settled_of_enough (hsteps : Enough model workers.length steps)
    (hquiet : (workers.map (·.rule)).any (Rule.cancels model) = false) :
    ((ofWorkers workers false).run model steps).workers.map (·.2.settled) =
      (workers.map (·.rule)).map (Rule.verdict model) := by
  obtain ⟨t, ⟨-, htasks⟩, htracks⟩ := tracks_of_quiet hquiet steps
  let final := (ofWorkers workers false).run model steps
  calc final.workers.map (·.2.settled)
      = ((final.workers.map Prod.fst).map (·.rule)).map (Rule.verdict model) := by
        rw [List.map_map, List.map_map]
        refine List.map_congr_left fun ⟨w, state⟩ hmem => ?_
        obtain ⟨i, hi⟩ := List.mem_iff_getElem?.mp hmem
        obtain ⟨s, rfl⟩ := collected_of_enough hsteps hi
        exact (htasks i w.rule _ (htracks.task hi)).2.symm
    _ = (workers.map (·.rule)).map (Rule.verdict model) := by
        rw [rules_run_ofWorkers model workers false steps]

end Crew

end PlatformAudit
