import PlatformAudit.Run.Execution

/-!
# What loading comes to

The load loop asks for one unit after the other and stops as soon as it sees that
the run is cancelled. So either nobody cancels, and then every unit was asked for
once, in order, and each is among the loaded or among the skipped ones
(`PlatformAudit.loadUnits_of_quiet`); or somebody does, and then the run is
cancelled when the loop ends, whether or not the loop had a further look at it
(`PlatformAudit.loadUnits_of_disturbed`). A cancellation by the very last load is
of the second kind although the loop does not stop for it.

What a source answers may depend on how many attempts there were before, so the
answers are listed together with their paths by
`PlatformAudit.Code.Source.attemptsFrom`.
-/

namespace PlatformAudit

open Code

/-! ### Parts of a run -/

namespace RunM

variable {α β : Type} {x : RunM α} {f : α → RunM β} {s t : RunState}

theorem run_get (s : RunState) : (get : RunM RunState).run s = (.ok s, s) :=
  rfl

theorem run_modify (g : RunState → RunState) (s : RunState) :
    (modify g : RunM PUnit).run s = (.ok ⟨⟩, g s) :=
  rfl

theorem run_bind_of_ok {a : α} (h : x.run s = (.ok a, t)) : (x >>= f).run s = (f a).run t := by
  change (ExceptT.bindCont f (x.run s).1) (x.run s).2 = _
  rw [h]
  rfl

theorem run_bind_of_error {e : RunError} (h : x.run s = (.error e, t)) :
    (x >>= f).run s = (.error e, t) := by
  change (ExceptT.bindCont f (x.run s).1) (x.run s).2 = _
  rw [h]
  rfl

end RunM

theorem advance_run {s : RunState} (next : Stage) (h : s.stage.canAdvanceTo next = true) :
    (advance next).run s = (.ok (), { s with stage := next }) := by
  have hadvance : s.stage.advance next = .ok next := by rw [Stage.advance, if_pos h]
  rw [advance, RunM.run_bind_of_ok (RunM.run_get s), hadvance]
  rfl

theorem giveUp_run {α : Type} {s : RunState} (h : s.stage.canAdvanceTo .cancelled = true) :
    (giveUp : RunM α).run s = (.error .cancelled, { s with stage := .cancelled }) := by
  rw [giveUp, RunM.run_bind_of_ok (advance_run .cancelled h)]
  rfl

/-! ### Attempts -/

/-- The attempts to load the units at some paths, after a number of earlier ones. -/
def Code.Source.attemptsFrom (source : Source) : (earlier : Nat) → List String →
    List (String × LoadAttempt)
  | _, [] => []
  | earlier, path :: paths =>
    (path, source.load earlier path) :: source.attemptsFrom (earlier + 1) paths

/-- The paths of the attempts are the paths that were asked for. -/
theorem Code.Source.paths_attemptsFrom (source : Source) (earlier : Nat) (paths : List String) :
    (source.attemptsFrom earlier paths).map Prod.fst = paths := by
  induction paths generalizing earlier with
  | nil => rfl
  | cons path paths ih => exact congrArg (path :: ·) (ih (earlier + 1))

theorem Code.Source.length_attemptsFrom (source : Source) (earlier : Nat) (paths : List String) :
    (source.attemptsFrom earlier paths).length = paths.length := by
  rw [← List.length_map Prod.fst, paths_attemptsFrom]

/-- The units that were loaded. -/
def loadedUnits (attempts : List (String × LoadAttempt)) : List LoadedUnit :=
  attempts.filterMap fun a =>
    match a.2.result with
    | .ok u => some u
    | .error _ => none

/-- The loads that failed, with their errors. -/
def failedLoads (attempts : List (String × LoadAttempt)) : List (String × SourceError) :=
  attempts.filterMap fun a =>
    match a.2.result with
    | .ok _ => none
    | .error e => some (a.1, e)

/-- **No unit is lost**: each is loaded or skipped. -/
theorem length_loadedUnits_add (attempts : List (String × LoadAttempt)) :
    (loadedUnits attempts).length + (failedLoads attempts).length = attempts.length := by
  induction attempts with
  | nil => rfl
  | cons a attempts ih =>
    obtain ⟨path, result, cancels⟩ := a
    cases result with
    | ok u =>
      simp only [loadedUnits, failedLoads, List.filterMap_cons, List.length_cons] at ih ⊢
      omega
    | error e =>
      simp only [loadedUnits, failedLoads, List.filterMap_cons, List.length_cons] at ih ⊢
      omega

/-- What was loaded after some attempts. -/
def Loading.after (l : Loading) (advise : Bool) (attempts : List (String × LoadAttempt)) :
    Loading where
  units := l.units ++ loadedUnits attempts
  skipped := l.skipped ++ (failedLoads attempts).map fun f =>
    { path := f.1, reason := f.2.message }
  advice := l.advice ++ if advise then (failedLoads attempts).map fun f => adviceOn f.1 f.2 else []

theorem Loading.after_nil (l : Loading) (advise : Bool) : l.after advise [] = l := by
  cases advise <;> simp [Loading.after, loadedUnits, failedLoads]

theorem Loading.after_cons (l : Loading) (advise : Bool) (path : String) (attempt : LoadAttempt)
    (attempts : List (String × LoadAttempt)) :
    (l.add advise path attempt.result).after advise attempts =
      l.after advise ((path, attempt) :: attempts) := by
  obtain ⟨result, cancels⟩ := attempt
  cases result with
  | ok u => simp [Loading.add, Loading.after, loadedUnits, failedLoads]
  | error e => cases advise <;> simp [Loading.add, Loading.after, loadedUnits, failedLoads]

/-! ### The loop -/

section Loop

variable (source : Source) (advise : Bool) (l : Loading) {paths : List String} {s : RunState}

/-- A load in a run that is not cancelled. -/
theorem loadUnits_cons (path : String) (paths : List String) (h : s.cancelled = false) :
    (loadUnits source advise (path :: paths) l).run s =
      (loadUnits source advise paths
        (l.add advise path (source.load s.attempts path).result)).run
        { s with
          attempts := s.attempts + 1
          cancelled := (source.load s.attempts path).cancels } := by
  rw [loadUnits, RunM.run_bind_of_ok (RunM.run_get s), h]
  rfl

/-- A cancelled run loads nothing. -/
theorem loadUnits_cons_of_cancelled (path : String) (paths : List String)
    (h : s.cancelled = true) (hstage : s.stage = .loading) :
    (loadUnits source advise (path :: paths) l).run s =
      (.error .cancelled, { s with stage := .cancelled }) := by
  have hgiveUp := giveUp_run (α := PUnit) (s := s) (by rw [hstage]; rfl)
  rw [loadUnits, RunM.run_bind_of_ok (RunM.run_get s), if_pos h]
  exact RunM.run_bind_of_error hgiveUp

/-- **A loop that nobody disturbs** asks for every unit once. -/
theorem loadUnits_of_quiet (hs : s.cancelled = false)
    (hquiet : (source.attemptsFrom s.attempts paths).any (·.2.cancels) = false) :
    (loadUnits source advise paths l).run s =
      (.ok (l.after advise (source.attemptsFrom s.attempts paths)),
        { s with attempts := s.attempts + paths.length }) := by
  induction paths generalizing l s with
  | nil =>
    rw [Source.attemptsFrom, Loading.after_nil]
    rfl
  | cons path paths ih =>
    rw [Source.attemptsFrom, List.any_cons, Bool.or_eq_false_iff] at hquiet
    obtain ⟨hfirst, hrest⟩ := hquiet
    rw [loadUnits_cons source advise l path paths hs, ih _ hfirst hrest, Loading.after_cons,
      hfirst, Source.attemptsFrom, List.length_cons, ← hs]
    simp only [Nat.add_assoc, Nat.add_comm 1]

/-- **A loop that somebody disturbs** ends in a cancelled run: it gives up, or it ends with a load
that cancels. -/
theorem loadUnits_of_disturbed (hstage : s.stage = .loading)
    (h : (s.cancelled || (source.attemptsFrom s.attempts paths).any (·.2.cancels)) = true) :
    ∃ t : RunState, t.cancelled = true ∧
      ((loadUnits source advise paths l).run s = (.error .cancelled, t) ∧ t.stage = .cancelled ∨
        ∃ l', (loadUnits source advise paths l).run s = (.ok l', t) ∧ t.stage = .loading) := by
  induction paths generalizing l s with
  | nil =>
    rw [Source.attemptsFrom, List.any_nil, Bool.or_false] at h
    exact ⟨s, h, Or.inr ⟨l, rfl, hstage⟩⟩
  | cons path paths ih =>
    cases hs : s.cancelled with
    | true =>
      exact ⟨{ s with stage := .cancelled }, hs,
        Or.inl ⟨loadUnits_cons_of_cancelled source advise l path paths hs hstage, rfl⟩⟩
    | false =>
      rw [hs, Source.attemptsFrom, List.any_cons, Bool.false_or] at h
      rw [loadUnits_cons source advise l path paths hs]
      exact ih _ hstage h

end Loop

end PlatformAudit
