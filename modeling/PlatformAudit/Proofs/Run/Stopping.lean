import PlatformAudit.Proofs.Run.Outcome

/-!
# Where a run stops

A run has three loops that stop when it is cancelled: over the units to load, over
the rules that run one after the other, and, inside a rule, over the units that the
rule looks at. All three ask before each item whether the run is cancelled, and an
item may itself cancel it. So all three handle the same part of their list,
`PlatformAudit.untilCancelled`: everything up to and including the first item that
cancels. What is known about stopping is known about this function.

This file says what the first two loops handle (`PlatformAudit.loadUnits_cases`,
`PlatformAudit.runInTurn_begun`) and derives what a run leaves behind however it ends:
how many loads it made, what the observer was told, and which rules looked at the
model (`PlatformAudit.RunState.LeftBy`). The statements on how a run ends say nothing
about these, since they do not follow a run that was cancelled.
-/

namespace PlatformAudit

open Code

/-! ### Loops that stop -/

section Loops

variable {α : Type} (cancels : α → Bool)

/-- The items that a loop handles if it asks before each of them whether the run is
cancelled. -/
def untilCancelled : (cancelled : Bool) → List α → List α
  | _, [] => []
  | true, _ :: _ => []
  | false, x :: xs => x :: untilCancelled (cancels x) xs

/-- In a cancelled run nothing is handled. -/
@[simp]
theorem untilCancelled_true (xs : List α) : untilCancelled cancels true xs = [] := by
  cases xs <;> rfl

@[simp]
theorem untilCancelled_nil (cancelled : Bool) : untilCancelled cancels cancelled [] = [] := by
  cases cancelled <;> rfl

/-- Items are handled in order, and none is left out before the loop stops. -/
theorem untilCancelled_isPrefix (cancelled : Bool) (xs : List α) :
    untilCancelled cancels cancelled xs <+: xs := by
  induction xs generalizing cancelled with
  | nil => simp
  | cons x xs ih =>
    cases cancelled with
    | true => simp
    | false => exact (List.prefix_cons_inj x).mpr (ih (cancels x))

theorem length_untilCancelled_le (cancelled : Bool) (xs : List α) :
    (untilCancelled cancels cancelled xs).length ≤ xs.length :=
  (untilCancelled_isPrefix cancels cancelled xs).length_le

variable {cancels}

/-- **Nothing is handled after an item that cancels.** -/
theorem length_untilCancelled_le_of_cancels {xs : List α} {i : Nat} {x : α} (cancelled : Bool)
    (hx : xs[i]? = some x) (hcancels : cancels x = true) :
    (untilCancelled cancels cancelled xs).length ≤ i + 1 := by
  induction xs generalizing cancelled i with
  | nil => simp
  | cons y ys ih =>
    cases cancelled with
    | true => simp
    | false =>
      rw [untilCancelled, List.length_cons]
      cases i with
      | zero =>
        obtain rfl : y = x := by simpa using hx
        rw [hcancels, untilCancelled_true]
        simp
      | succ i =>
        have hrest := ih (cancels y) (i := i) (by simpa using hx)
        omega

/-- Where nobody cancels, everything is handled. -/
theorem untilCancelled_of_quiet {xs : List α} (h : xs.any cancels = false) :
    untilCancelled cancels false xs = xs := by
  induction xs with
  | nil => rfl
  | cons x xs ih =>
    rw [List.any_cons, Bool.or_eq_false_iff] at h
    rw [untilCancelled, h.1, ih h.2]

end Loops

/-! ### Loads -/

/-- The attempts to load that a run makes. -/
def Code.Source.loadsMade (source : Source) (cancelled : Bool) (earlier : Nat)
    (paths : List String) : List (String × LoadAttempt) :=
  untilCancelled (·.2.cancels) cancelled (source.attemptsFrom earlier paths)

/-- A run after some attempts to load. -/
def RunState.afterLoads (s : RunState) (made : List (String × LoadAttempt)) : RunState :=
  { s with
    attempts := s.attempts + made.length
    cancelled := s.cancelled || made.any (·.2.cancels) }

theorem RunState.afterLoads_nil (s : RunState) : s.afterLoads [] = s := by
  simp [RunState.afterLoads]

/-- A load in a run that was not cancelled comes first. -/
theorem RunState.afterLoads_cons {s : RunState} (hs : s.cancelled = false)
    (load : String × LoadAttempt) (made : List (String × LoadAttempt)) :
    s.afterLoads (load :: made) =
      { s with attempts := s.attempts + 1, cancelled := load.2.cancels }.afterLoads made := by
  simp only [RunState.afterLoads, List.length_cons, List.any_cons, hs, Bool.false_or,
    Nat.add_assoc, Nat.add_comm 1]

/-- **What the load loop does**: it makes its loads, and either they are all there are, or it
gives up. -/
theorem loadUnits_cases (source : Source) (advise : Bool) (l : Loading) (paths : List String)
    {s : RunState} (hstage : s.stage = .loading) :
    let made := source.loadsMade s.cancelled s.attempts paths
    made = source.attemptsFrom s.attempts paths ∧
        (loadUnits source advise paths l).run s = (.ok (l.after advise made), s.afterLoads made) ∨
      made.length < paths.length ∧
        (loadUnits source advise paths l).run s =
          (.error .cancelled, { s.afterLoads made with stage := .cancelled }) := by
  intro made
  induction paths generalizing l s with
  | nil =>
    have hmade : made = [] := untilCancelled_nil _ _
    refine Or.inl ⟨hmade, ?_⟩
    rw [hmade, Loading.after_nil, RunState.afterLoads_nil]
    rfl
  | cons path paths ih =>
    cases hs : s.cancelled with
    | true =>
      have hmade : made = [] := by
        simp only [made, Source.loadsMade, hs, untilCancelled_true]
      refine Or.inr ⟨by simp [hmade], ?_⟩
      rw [loadUnits_cons_of_cancelled source advise l path paths hs hstage, hmade,
        RunState.afterLoads_nil]
    | false =>
      have hmade : made = (path, source.load s.attempts path) ::
          source.loadsMade (source.load s.attempts path).cancels (s.attempts + 1) paths := by
        simp only [made, Source.loadsMade, hs]
        rfl
      rw [loadUnits_cons source advise l path paths hs, hmade, RunState.afterLoads_cons hs]
      rcases ih (l.add advise path (source.load s.attempts path).result)
        (s := { s with
          attempts := s.attempts + 1
          cancelled := (source.load s.attempts path).cancels }) hstage with
        ⟨hall, hrun⟩ | ⟨hless, hrun⟩
      · refine Or.inl ⟨congrArg _ hall, ?_⟩
        rw [hrun, Loading.after_cons]
      · refine Or.inr ⟨?_, hrun⟩
        rw [List.length_cons, List.length_cons]
        exact Nat.succ_lt_succ hless

/-! ### Rules in turn -/

/-- What the observer is told of a rule that runs on its own. -/
def Settled.told (total : Nat) (turn : (Rule × Nat) × Settled) : List Event :=
  [.started turn.1.1.id turn.1.2 total, turn.2.finished turn.1.1]

/-- **Which rules run in turn**: those up to and including the first that cancels. Each of them
looks at the model, in order, and has a result, and the observer is told of each by itself. -/
theorem runInTurn_begun (model : LoadedModel) (total index : Nat) (rules : List Rule)
    (cancelled : Bool) :
    let phase := runInTurn model total index rules cancelled
    let begun := untilCancelled (Rule.cancels model) cancelled rules
    begun.length ≤ phase.settled.length ∧
      phase.events = ((begun.zipIdx index).zip phase.settled).flatMap (Settled.told total) ∧
      phase.analyzed = List.range' index begun.length := by
  induction rules generalizing index cancelled with
  | nil => simp [runInTurn]
  | cons rule rules ih =>
    cases cancelled with
    | true => simp [runInTurn]
    | false =>
      obtain ⟨result, after, hanalyze⟩ : ∃ result after,
          rule.analyze model false = (result, after) := ⟨_, _, rfl⟩
      have hcancels : rule.cancels model = after := by rw [Rule.cancels, hanalyze]
      simp only [runInTurn, hanalyze, untilCancelled, hcancels]
      split
      next hjudge =>
        -- a rule that ends cancelled has cancelled the run, so it is the last one
        have hafter : after = true := by
          cases after with
          | true => rfl
          | false => exact absurd hjudge (Settled.judge_ne_cancelled result)
        rw [hafter, untilCancelled_true]
        exact ⟨Nat.le_refl 1, rfl, rfl⟩
      next =>
        obtain ⟨hlength, hevents, hanalyzed⟩ := ih (index + 1) after
        refine ⟨Nat.succ_le_succ hlength, ?_, ?_⟩
        · rw [hevents]
          rfl
        · rw [hanalyzed]
          rfl

/-! ### What a run leaves behind -/

/-- **What a run leaves behind**, however it ends: how many loads it made, what the
observer was told, and which rules looked at what. Either it has made all its loads,
and then its rules ran, or it has not, and then none did. -/
structure RunState.LeftBy (e : Engine) (source : Source) (paths : List String)
    (s final : RunState) : Prop where
  attempts_eq :
    final.attempts = s.attempts + (source.loadsMade s.cancelled s.attempts paths).length
  rules :
    (source.loadsMade s.cancelled s.attempts paths).length < paths.length ∧
        final.events = s.events ∧ final.analyses = s.analyses ∨
      ∃ phase, phase = e.runRules (source.modelFrom s.attempts paths)
          (s.cancelled || (source.attemptsFrom s.attempts paths).any (·.2.cancels)) ∧
        final.events = s.events ++ phase.events ∧
        final.analyses = s.analyses ++ phase.analyzed.map fun index =>
          (index, source.modelFrom s.attempts paths)

namespace Engine

variable (e : Engine) (source : Source) (clock : Clock) {s : RunState} {paths : List String}

/-- What the rules leave behind, whether or not the run was cancelled. -/
theorem runOn_leaves (loading : Loading) (hstage : s.stage = .loading) :
    let phase := e.runRules (loading.model source) s.cancelled
    let final := ((e.runOn source clock loading).run s).2
    final.attempts = s.attempts ∧ final.events = s.events ++ phase.events ∧
      final.analyses = s.analyses ++ phase.analyzed.map fun index =>
        (index, loading.model source) := by
  have hadvance := advance_run (s := s) .running (by rw [hstage]; rfl)
  rw [runOn, RunM.run_bind_of_ok hadvance, RunM.run_bind_of_ok (RunM.run_get _),
    RunM.run_bind_of_ok (RunM.run_modify _ _)]
  split
  next => exact ⟨rfl, rfl, rfl⟩
  next =>
    rw [giveUp_run rfl]
    exact ⟨rfl, rfl, rfl⟩

theorem run_leaves (hs : s.stage = .idle) (henum : source.enumerate = .ok paths) :
    RunState.LeftBy e source paths s ((e.run source clock).run s).2 := by
  rw [e.run_of_ok source clock hs henum]
  rcases loadUnits_cases source e.settings.unitAdvisories {} paths
    (s := { s with stage := .loading }) rfl with ⟨hall, hrun⟩ | ⟨hless, hrun⟩
  · -- all loads were made, so the rules look at all that can be loaded
    replace hall : source.loadsMade s.cancelled s.attempts paths =
      source.attemptsFrom s.attempts paths := hall
    rw [RunM.run_bind_of_ok hrun]
    obtain ⟨hattempts, hevents, hanalyses⟩ := e.runOn_leaves source clock
      (Loading.after {} e.settings.unitAdvisories (source.loadsMade s.cancelled s.attempts paths))
      (s := { s with stage := .loading }.afterLoads
        (source.loadsMade s.cancelled s.attempts paths)) rfl
    refine ⟨hattempts, Or.inr ⟨_, rfl, ?_, ?_⟩⟩
    · rw [← hall]
      exact hevents.trans (by rw [hall]; rfl)
    · rw [← hall]
      exact hanalyses.trans (by rw [hall]; rfl)
  · rw [RunM.run_bind_of_error hrun]
    exact ⟨rfl, Or.inl ⟨hless, rfl, rfl⟩⟩

/-- A run with a report leaves the same behind as one without. -/
theorem audit_leaves {filter : Filter} (hfilter : Filter.compile e.settings.filter = .ok filter)
    (hs : s.stage = .idle) (henum : source.enumerate = .ok paths) :
    RunState.LeftBy e source paths s ((e.audit source clock).run s).2 := by
  have hleft := e.run_leaves source clock hs henum
  rcases e.run_cases source clock hs with ⟨err, -, hrun⟩ | ⟨_, t, -, -, hrun, -⟩ | ⟨_, -, -, hrun⟩
  · rw [hrun] at hleft
    rwa [e.audit_of_run_error source clock hfilter hrun]
  · rw [hrun] at hleft
    rwa [e.audit_of_run_error source clock hfilter hrun]
  · rw [hrun] at hleft
    rw [e.audit_of_run_ok source clock hfilter hrun rfl]
    exact ⟨hleft.attempts_eq, hleft.rules⟩

end Engine

end PlatformAudit
