import PlatformAudit.Proofs.Run.Outcome

/-!
# A run leaves nothing out, and a rule that fails is on its own

An output says what became of every unit and of every rule. The results of the
rules are put together by pairing them off with the rules, and pairing off stops at
the shorter list; so a rule would be lost without a trace if its result were
missing. It never is: a run that is not cancelled has one result for each rule
(`PlatformAudit.Engine.runRules_settles`), and a run that is cancelled has no
output. `PlatformAudit.Accounts` lists what an output accounts for.

That rules are on their own is then a matter of lists: the findings and the
failures of a run are those of its rules, one rule after the other, and a rule that
fails has no finding and one failure.
-/

namespace PlatformAudit

open Code

/-- **What an output accounts for**, where `final` is the state in which the run
ended: every unit, loaded or skipped, and every rule, by what it found or how it
failed. -/
structure Accounts (e : Engine) (source : Source) (earlier : Nat) (paths : List String)
    (out : RunOutput) (final : RunState) : Prop where
  /-- Every unit was asked for once, in the order in which they were listed. -/
  asked : (source.attemptsFrom earlier paths).map Prod.fst = paths
  units : (loadedUnits (source.attemptsFrom earlier paths)).length +
    (failedLoads (source.attemptsFrom earlier paths)).length = paths.length
  scanned : out.unitsScanned = (loadedUnits (source.attemptsFrom earlier paths)).length
  packages : out.packages = source.packages
  skipped : out.skippedUnits = (failedLoads (source.attemptsFrom earlier paths)).map fun f =>
    { path := f.1, reason := f.2.message }
  /-- Every rule looked at the model once. -/
  analyses : final.analyses.Perm ((List.range e.rules.length).map fun index =>
    (index, source.modelFrom earlier paths))
  findings : out.findings =
    (if e.settings.unitAdvisories then
      (failedLoads (source.attemptsFrom earlier paths)).map fun f => adviceOn f.1 f.2
    else []) ++ e.rules.flatMap (Rule.found (source.modelFrom earlier paths))
  failures : out.ruleFailures = e.rules.flatMap (Rule.failures (source.modelFrom earlier paths))

/-- The only run that gives an output is one that nobody cancels. -/
theorem Engine.quiet_of_run_ok {e : Engine} {source : Source} {clock : Clock}
    {s final : RunState} {out : RunOutput} (hs : s.stage = .idle)
    (h : (e.run source clock).run s = (.ok out, final)) :
    ∃ paths, source.enumerate = .ok paths ∧ endsCancelled e.rules source s paths = false ∧
      out = e.outputOf source clock s paths ∧ final = e.stateAfter source s paths := by
  rcases e.run_cases source clock hs with ⟨err, -, hrun⟩ | ⟨paths, t, -, -, hrun, -⟩ |
    ⟨paths, henum, hends, hrun⟩
  · rw [hrun] at h
    cases h
  · rw [hrun] at h
    cases h
  · rw [hrun] at h
    cases h
    exact ⟨paths, henum, hends, rfl, rfl⟩

theorem Engine.outputOf_accounts (e : Engine) (source : Source) (clock : Clock)
    (cancelled : Bool) (attempts : Nat) (paths : List String)
    (hends : endsCancelled e.rules source { cancelled, attempts } paths = false) :
    Accounts e source attempts paths (e.outputOf source clock { cancelled, attempts } paths)
      (e.stateAfter source { cancelled, attempts } paths) where
  asked := source.paths_attemptsFrom attempts paths
  units := by rw [length_loadedUnits_add, Source.length_attemptsFrom]
  scanned := rfl
  packages := rfl
  skipped := rfl
  analyses := by
    obtain ⟨-, hrules⟩ := Bool.or_eq_false_iff.mp hends
    have hphase := e.runRules_settles (source.modelFrom attempts paths) false
    have hcancelled : (e.runRules (source.modelFrom attempts paths) false).cancelled = false := by
      rw [hphase.cancelled_eq, hrules]
      rfl
    exact (hphase.analyzed_perm hcancelled).map _
  findings := rfl
  failures := rfl

/-! ### A rule that fails -/

/-- A rule that fails, crashes, or reports a cancellation that nobody made, without cancelling the
run itself. -/
def Rule.FailsOn (model : LoadedModel) (rule : Rule) : Prop :=
  rule.cancels model = false ∧ ∀ outcome, (rule.analyze model false).1 ≠ .done outcome

/-- Such a rule has no finding and one failure, that of the rule altogether. -/
theorem Rule.FailsOn.contributes {model : LoadedModel} {rule : Rule} (h : rule.FailsOn model) :
    rule.found model = [] ∧ ∃ message, rule.failures model = [{ ruleId := rule.id, message }] := by
  obtain ⟨-, hnone⟩ := h
  rw [Rule.found, Rule.failures, Rule.verdict]
  cases hresult : (rule.analyze model false).1 with
  | done outcome => exact absurd hresult (hnone outcome)
  | cancelled => exact ⟨rfl, _, rfl⟩
  | failed failure => exact ⟨rfl, _, rfl⟩
  | crashed detail => exact ⟨rfl, _, rfl⟩

section Insertion

variable {pre post : List Rule} {rule : Rule} {source : Source} {s : RunState}
  {paths : List String}

theorem endsCancelled_insert (h : rule.FailsOn (source.modelFrom s.attempts paths)) :
    endsCancelled (pre ++ rule :: post) source s paths =
      endsCancelled (pre ++ post) source s paths := by
  simp only [endsCancelled, List.any_append, List.any_cons, h.1, Bool.false_or]

theorem flatMap_found_insert {model : LoadedModel} (h : rule.FailsOn model) :
    (pre ++ rule :: post).flatMap (Rule.found model) =
      (pre ++ post).flatMap (Rule.found model) := by
  simp only [List.flatMap_append, List.flatMap_cons, h.contributes.1, List.nil_append]

theorem flatMap_failures_insert {model : LoadedModel} (pre post : List Rule)
    (h : rule.FailsOn model) :
    ∃ message, (pre ++ rule :: post).flatMap (Rule.failures model) =
      pre.flatMap (Rule.failures model) ++
        { ruleId := rule.id, message } :: post.flatMap (Rule.failures model) := by
  obtain ⟨-, message, hfailures⟩ := h.contributes
  exact ⟨message, by rw [List.flatMap_append, List.flatMap_cons, hfailures]; rfl⟩

end Insertion

/-- **A run leaves nothing out and isolates failures.** Its output accounts for
every unit and every rule. A rule that fails, put anywhere among the others and run
in either mode, changes nothing but that its one failure is listed in its place. -/
theorem run_complete_and_isolated (e : Engine) (source : Source) (clock : Clock)
    (cancelled : Bool) (attempts : Nat) {out : RunOutput} {final : RunState}
    (h : (e.run source clock).run { cancelled, attempts } = (.ok out, final)) :
    ∃ paths, source.enumerate = .ok paths ∧ Accounts e source attempts paths out final ∧
      ∀ (pre post : List Rule) (rule : Rule) (mode : Mode)
        (schedule : Schedule (pre ++ rule :: post).length) (clock' : Clock),
        e.rules = pre ++ post → rule.FailsOn (source.modelFrom attempts paths) →
        let e' : Engine :=
          { rules := pre ++ rule :: post, settings := { e.settings with mode }, schedule }
        ∃ out' final' before after message,
          (e'.run source clock').run { cancelled, attempts } = (.ok out', final') ∧
          out'.unitsScanned = out.unitsScanned ∧ out'.findings = out.findings ∧
          out'.packages = out.packages ∧ out'.skippedUnits = out.skippedUnits ∧
          out.ruleFailures = before ++ after ∧
          out'.ruleFailures = before ++ { ruleId := rule.id, message } :: after := by
  obtain ⟨paths, henum, hends, rfl, rfl⟩ := Engine.quiet_of_run_ok rfl h
  refine ⟨paths, henum, e.outputOf_accounts source clock cancelled attempts paths hends, ?_⟩
  intro pre post rule mode schedule clock' hrules hfails e'
  obtain ⟨message, hfailures⟩ := flatMap_failures_insert pre post hfails
  have hends' : endsCancelled e'.rules source { cancelled, attempts } paths = false := by
    rw [endsCancelled_insert hfails, ← hrules, hends]
  refine ⟨_, _, _, _, message, e'.run_of_quiet source clock' rfl henum hends', rfl, ?_, rfl, rfl,
    ?_, hfailures⟩
  · simp only [Engine.outputOf, e', hrules, flatMap_found_insert hfails]
  · simp only [Engine.outputOf, hrules, List.flatMap_append]

/-- A source of two units, the second of which cannot be loaded. -/
def halfReadable : Source where
  sourceId := "half"
  enumerate := .ok ["a", "b"]
  load _ path :=
    { result :=
        if path = "a" then .ok { unit := { path, root := { kind := .compilationUnit, line := 1 } } }
        else .error (.unreadable path "locked") }

/-- A rule that finds something in every unit. -/
def everywhere : Rule where
  id := "T1"
  name := "everywhere"
  category := .general
  analyze model cancelled :=
    (.done { findings := model.units.map fun u =>
      Finding.create "T1" .general .low u.unit.path 1 "found" "" }, cancelled)

/-- A rule that crashes. -/
def crashing : Rule where
  id := "T2"
  name := "crashing"
  category := .general
  analyze _ cancelled := (.crashed none, cancelled)

/-- The moment from which time is counted. -/
def epoch : Clock :=
  { startedAt := { seconds := 0, nanos := 0 }, elapsedNanos := 0 }

theorem run_complete_and_isolated_halfReadable :
    let alone : Engine := { rules := [everywhere], settings := {} }
    let both : Engine :=
      { rules := [crashing, everywhere], settings := { mode := .concurrent } }
    ∃ out final out' final',
      (alone.run halfReadable epoch).run { cancelled := false } = (.ok out, final) ∧
      Accounts alone halfReadable 0 ["a", "b"] out final ∧
      out.findings.map (·.ruleId) = ["ENG001", "T1"] ∧
      (both.run halfReadable epoch).run { cancelled := false } = (.ok out', final') ∧
      out'.findings = out.findings ∧ out'.ruleFailures.map (·.ruleId) = ["T2"] := by
  intro alone both
  have hrun : (alone.run halfReadable epoch).run { cancelled := false } =
      (.ok (alone.outputOf halfReadable epoch { cancelled := false } ["a", "b"]),
        alone.stateAfter halfReadable { cancelled := false } ["a", "b"]) :=
    alone.run_of_quiet halfReadable epoch rfl rfl rfl
  obtain ⟨paths, henum, haccounts, hinsert⟩ :=
    run_complete_and_isolated alone halfReadable epoch false 0 hrun
  obtain rfl : ["a", "b"] = paths := Except.ok.inj henum
  obtain ⟨out', final', before, after, message, hrun', -, hfindings, -, -, hbefore, hafter⟩ :=
    hinsert [] [everywhere] crashing .concurrent (Schedule.inOrder 2) epoch rfl
      ⟨rfl, fun _ h => by cases h⟩
  obtain ⟨rfl, rfl⟩ : before = [] ∧ after = [] := List.append_eq_nil_iff.mp hbefore.symm
  exact ⟨_, _, out', final', hrun, haccounts, rfl, hrun', hfindings, by rw [hafter]; rfl⟩

end PlatformAudit
