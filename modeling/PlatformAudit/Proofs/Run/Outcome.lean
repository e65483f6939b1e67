import PlatformAudit.Audit
import PlatformAudit.Proofs.Run.Loading
import PlatformAudit.Proofs.Run.Phase

/-!
# How a run ends

A run has four ways to end, and this file says exactly when it takes which:
`PlatformAudit.Engine.run_cases` for a run without a report and
`PlatformAudit.Engine.audit_fst` for one with a report. They are stated by what
the source and the rules answer, not by what the loops of the run do:

* the units cannot be listed, or
* somebody cancels (`PlatformAudit.endsCancelled`): the run is cancelled
  from the start, by a load or by a rule, or
* nobody does, and then the output is `PlatformAudit.Engine.outputOf`.

Neither the mode nor the schedule occurs in these two definitions, so neither shows
in what a run returns (`PlatformAudit.Engine.run_fst_onClock`).
-/

namespace PlatformAudit

open Code

/-! ### What the rules contribute -/

/-- What a rule finds in a run that nobody cancels. -/
def Rule.found (model : LoadedModel) (rule : Rule) : List Finding :=
  match rule.verdict model with
  | .done outcome => outcome.findings
  | _ => []

/-- The failures of a rule in a run that nobody cancels: those on single units, or that of the
rule altogether. -/
def Rule.failures (model : LoadedModel) (rule : Rule) : List RuleFailure :=
  match rule.verdict model with
  | .done outcome => outcome.unitFailures.map fun f =>
      { ruleId := rule.id, unit := some f.path, message := f.message }
  | .failed message => [{ ruleId := rule.id, message }]
  | .cancelled => []

/-- **Verdicts are put together rule by rule**: no rule is dropped. -/
theorem merge_verdicts (model : LoadedModel) (rules : List Rule) :
    merge (rules.zip (rules.map (Rule.verdict model))) =
      some (rules.flatMap (Rule.failures model), rules.flatMap (Rule.found model)) := by
  induction rules with
  | nil => rfl
  | cons rule rules ih =>
    rw [List.map_cons, List.zip_cons_cons, List.flatMap_cons, List.flatMap_cons]
    cases hverdict : rule.verdict model with
    | done outcome =>
      rw [merge, ih, Rule.failures, Rule.found, hverdict]
      rfl
    | failed message =>
      rw [merge, ih, Rule.failures, Rule.found, hverdict]
      rfl
    | cancelled => exact absurd hverdict rule.verdict_ne_cancelled

/-! ### What a run comes to -/

/-- What the rules of a run look at, after a number of earlier attempts to load. -/
def Code.Source.modelFrom (source : Source) (earlier : Nat) (paths : List String) :
    LoadedModel where
  sourceId := source.sourceId
  units := loadedUnits (source.attemptsFrom earlier paths)
  packages := source.packages

/-- Whether a run of some rules is cancelled in the end: from the start, by a load, or by a
rule. -/
def endsCancelled (rules : List Rule) (source : Source) (s : RunState) (paths : List String) :
    Bool :=
  (s.cancelled || (source.attemptsFrom s.attempts paths).any (·.2.cancels)) ||
    rules.any (Rule.cancels (source.modelFrom s.attempts paths))

namespace Engine

/-- The output of a run that nobody cancels. -/
def outputOf (e : Engine) (source : Source) (clock : Clock) (s : RunState) (paths : List String) :
    RunOutput :=
  let model := source.modelFrom s.attempts paths
  let loading := Loading.after {} e.settings.unitAdvisories (source.attemptsFrom s.attempts paths)
  { sourceId := source.sourceId
    clock
    unitsScanned := model.units.length
    packages := source.packages
    findings := loading.advice ++ e.rules.flatMap (Rule.found model)
    ruleFailures := e.rules.flatMap (Rule.failures model)
    skippedUnits := loading.skipped }

/-- The state after a run that nobody cancels. -/
def stateAfter (e : Engine) (source : Source) (s : RunState) (paths : List String) : RunState :=
  let model := source.modelFrom s.attempts paths
  let phase := e.runRules model false
  { cancelled := false
    attempts := s.attempts + paths.length
    stage := .running
    events := s.events ++ phase.events
    analyses := s.analyses ++ phase.analyzed.map fun index => (index, model) }

variable (e : Engine) (source : Source) (clock : Clock) {s t : RunState} {paths : List String}

/-- A run that is cancelled when its rules have run gives up. -/
theorem runOn_of_cancelled (loading : Loading) (hstage : s.stage = .loading)
    (h : (s.cancelled || e.rules.any (Rule.cancels (loading.model source))) = true) :
    ∃ t : RunState, (e.runOn source clock loading).run s = (.error .cancelled, t) ∧
      t.stage = .cancelled ∧ t.cancelled = true := by
  have hadvance := advance_run (s := s) .running (by rw [hstage]; rfl)
  have hphase := (e.runRules_settles (loading.model source) s.cancelled).cancelled_eq.trans h
  rw [runOn, RunM.run_bind_of_ok hadvance, RunM.run_bind_of_ok (RunM.run_get _),
    RunM.run_bind_of_ok (RunM.run_modify _ _)]
  simp only [hphase]
  split
  next hfalse => exact absurd hfalse (by simp)
  next => exact ⟨_, giveUp_run rfl, rfl, rfl⟩

/-- A run that nobody cancels returns what its rules contribute. -/
theorem runOn_of_quiet (loading : Loading) (hstage : s.stage = .loading)
    (hs : s.cancelled = false)
    (hquiet : e.rules.any (Rule.cancels (loading.model source)) = false) :
    (e.runOn source clock loading).run s =
      (.ok { sourceId := source.sourceId
             clock
             unitsScanned := loading.units.length
             packages := source.packages
             findings := loading.advice ++ e.rules.flatMap (Rule.found (loading.model source))
             ruleFailures := e.rules.flatMap (Rule.failures (loading.model source))
             skippedUnits := loading.skipped },
        { s with
          cancelled := false
          stage := .running
          events := s.events ++ (e.runRules (loading.model source) false).events
          analyses := s.analyses ++ (e.runRules (loading.model source) false).analyzed.map
            fun index => (index, loading.model source) }) := by
  have hadvance := advance_run (s := s) .running (by rw [hstage]; rfl)
  have hphase := e.runRules_settles (loading.model source) false
  have hcancelled : (e.runRules (loading.model source) false).cancelled = false := by
    rw [hphase.cancelled_eq, hquiet]
    rfl
  rw [runOn, RunM.run_bind_of_ok hadvance, RunM.run_bind_of_ok (RunM.run_get _),
    RunM.run_bind_of_ok (RunM.run_modify _ _)]
  simp only [hs, hcancelled, hphase.settled_eq hcancelled, merge_verdicts]
  rfl

/-- A run whose units cannot be listed is over, cancelled or not. -/
theorem run_of_error {err : SourceError} (hs : s.stage = .idle)
    (henum : source.enumerate = .error err) :
    (e.run source clock).run s = (.error (.fatalLoad err), { s with stage := .fatal }) := by
  rw [run, RunM.run_bind_of_ok (advance_run .loading (by rw [hs]; rfl)), henum]
  exact RunM.run_bind_of_ok (advance_run .fatal rfl)

/-- A run whose units can be listed loads them and runs the rules on them. -/
theorem run_of_ok (hs : s.stage = .idle) (henum : source.enumerate = .ok paths) :
    (e.run source clock).run s =
      (loadUnits source e.settings.unitAdvisories paths {} >>= e.runOn source clock).run
        { s with stage := .loading } := by
  rw [run, RunM.run_bind_of_ok (advance_run .loading (by rw [hs]; rfl)), henum]

/-- A run that somebody cancels, wherever it happens, ends cancelled. -/
theorem run_of_endsCancelled (hs : s.stage = .idle) (henum : source.enumerate = .ok paths)
    (hends : endsCancelled e.rules source s paths = true) :
    ∃ t : RunState, (e.run source clock).run s = (.error .cancelled, t) ∧
      t.stage = .cancelled ∧ t.cancelled = true := by
  rw [e.run_of_ok source clock hs henum]
  cases hload : s.cancelled || (source.attemptsFrom s.attempts paths).any (·.2.cancels) with
  | true =>
    obtain ⟨t, ht, ⟨hrun, hstage⟩ | ⟨l, hrun, hstage⟩⟩ :=
      loadUnits_of_disturbed source e.settings.unitAdvisories {}
        (s := { s with stage := .loading }) rfl hload
    · exact ⟨t, RunM.run_bind_of_error hrun, hstage, ht⟩
    · -- the last load cancels, or there was none: only the rules see it
      rw [RunM.run_bind_of_ok hrun]
      exact e.runOn_of_cancelled source clock l hstage (by rw [ht]; rfl)
  | false =>
    obtain ⟨hcancelled, hloads⟩ := Bool.or_eq_false_iff.mp hload
    rw [endsCancelled, hload, Bool.false_or] at hends
    have hrun := loadUnits_of_quiet source e.settings.unitAdvisories {}
      (s := { s with stage := .loading }) hcancelled hloads
    rw [RunM.run_bind_of_ok hrun]
    exact e.runOn_of_cancelled source clock _ rfl (Bool.or_eq_true_iff.mpr (Or.inr hends))

/-- A run that nobody cancels gives an output. -/
theorem run_of_quiet (hs : s.stage = .idle) (henum : source.enumerate = .ok paths)
    (hends : endsCancelled e.rules source s paths = false) :
    (e.run source clock).run s =
      (.ok (e.outputOf source clock s paths), e.stateAfter source s paths) := by
  obtain ⟨hload, hrules⟩ := Bool.or_eq_false_iff.mp hends
  obtain ⟨hcancelled, hloads⟩ := Bool.or_eq_false_iff.mp hload
  have hrun := loadUnits_of_quiet source e.settings.unitAdvisories {}
    (s := { s with stage := .loading }) hcancelled hloads
  rw [e.run_of_ok source clock hs henum, RunM.run_bind_of_ok hrun]
  exact e.runOn_of_quiet source clock _ rfl hcancelled hrules

/-- **How a run ends**, by what the source and the rules answer. -/
theorem run_cases (hs : s.stage = .idle) :
    (∃ err, source.enumerate = .error err ∧
      (e.run source clock).run s = (.error (.fatalLoad err), { s with stage := .fatal })) ∨
    (∃ paths t, source.enumerate = .ok paths ∧ endsCancelled e.rules source s paths = true ∧
      (e.run source clock).run s = (.error .cancelled, t) ∧
      t.stage = .cancelled ∧ t.cancelled = true) ∨
    ∃ paths, source.enumerate = .ok paths ∧ endsCancelled e.rules source s paths = false ∧
      (e.run source clock).run s =
        (.ok (e.outputOf source clock s paths), e.stateAfter source s paths) := by
  cases henum : source.enumerate with
  | error err => exact Or.inl ⟨err, rfl, e.run_of_error source clock hs henum⟩
  | ok paths =>
    cases hends : endsCancelled e.rules source s paths with
    | true =>
      obtain ⟨t, ht⟩ := e.run_of_endsCancelled source clock hs henum hends
      exact Or.inr (Or.inl ⟨paths, t, rfl, hends, ht⟩)
    | false => exact Or.inr (Or.inr ⟨paths, rfl, hends, e.run_of_quiet source clock hs henum hends⟩)

/-- What a run returns. -/
theorem run_fst (hs : s.stage = .idle) :
    ((e.run source clock).run s).1 =
      match source.enumerate with
      | .error err => .error (.fatalLoad err)
      | .ok paths =>
        if endsCancelled e.rules source s paths then .error .cancelled
        else .ok (e.outputOf source clock s paths) := by
  rcases e.run_cases source clock hs with ⟨err, henum, hrun⟩ | ⟨paths, t, henum, hends, hrun, -⟩ |
    ⟨paths, henum, hends, hrun⟩
  all_goals simp only [henum, hrun]
  · rw [if_pos hends]
  · rw [if_neg (by simp [hends])]

/-! ### Runs with a report -/

theorem audit_of_error {err : ConfigError} (h : Filter.compile e.settings.filter = .error err) :
    (e.audit source clock).run s = (.error (.config err), s) := by
  rw [audit, h]
  rfl

/-- A run that gives no output gives no report either. -/
theorem audit_of_run_error {filter : Filter} {err : RunError}
    (h : Filter.compile e.settings.filter = .ok filter)
    (hrun : (e.run source clock).run s = (.error err, t)) :
    (e.audit source clock).run s = (.error err, t) := by
  rw [audit, h]
  exact RunM.run_bind_of_error hrun

/-- The report of a run is made of its output. -/
theorem audit_of_run_ok {filter : Filter} {output : RunOutput}
    (h : Filter.compile e.settings.filter = .ok filter)
    (hrun : (e.run source clock).run s = (.ok output, t)) (hstage : t.stage = .running) :
    (e.audit source clock).run s =
      (.ok (output.report (filter.apply output.findings)), { t with stage := .complete }) := by
  rw [audit, h]
  refine (RunM.run_bind_of_ok hrun).trans ?_
  rw [RunM.run_bind_of_ok (advance_run .aggregating (by rw [hstage]; rfl))]
  exact RunM.run_bind_of_ok (advance_run .complete rfl)

/-- **What a run with a report returns**: the report of its output. -/
theorem audit_fst (hs : s.stage = .idle) :
    ((e.audit source clock).run s).1 =
      match Filter.compile e.settings.filter with
      | .error err => .error (.config err)
      | .ok filter =>
        ((e.run source clock).run s).1.map fun output =>
          output.report (filter.apply output.findings) := by
  cases hfilter : Filter.compile e.settings.filter with
  | error err => rw [e.audit_of_error source clock hfilter]
  | ok filter =>
    rcases e.run_cases source clock hs with ⟨err, -, hrun⟩ | ⟨paths, t, -, -, hrun, -⟩ |
      ⟨paths, -, -, hrun⟩
    · rw [e.audit_of_run_error source clock hfilter hrun, hrun]
      rfl
    · rw [e.audit_of_run_error source clock hfilter hrun, hrun]
      rfl
    · rw [e.audit_of_run_ok source clock hfilter hrun rfl, hrun]
      rfl

/-- The only run that gives a report is one that nobody cancels, and its report is made of its
output. -/
theorem quiet_of_audit_ok {report : Report} {final : RunState} (hs : s.stage = .idle)
    (h : (e.audit source clock).run s = (.ok report, final)) :
    ∃ filter paths, Filter.compile e.settings.filter = .ok filter ∧
      source.enumerate = .ok paths ∧ endsCancelled e.rules source s paths = false ∧
      report = (e.outputOf source clock s paths).report
        (filter.apply (e.outputOf source clock s paths).findings) := by
  cases hfilter : Filter.compile e.settings.filter with
  | error err =>
    rw [e.audit_of_error source clock hfilter] at h
    cases h
  | ok filter =>
    rcases e.run_cases source clock hs with ⟨err, -, hrun⟩ | ⟨paths, t, -, -, hrun, -⟩ |
      ⟨paths, henum, hends, hrun⟩
    · rw [e.audit_of_run_error source clock hfilter hrun] at h
      cases h
    · rw [e.audit_of_run_error source clock hfilter hrun] at h
      cases h
    · rw [e.audit_of_run_ok source clock hfilter hrun rfl] at h
      cases h
      exact ⟨filter, paths, rfl, henum, hends, rfl⟩

end Engine

/-- A run of the built-in rules that gives a report is a run of an engine with these rules. -/
theorem builtin_of_audit_ok {source : Source} {tables : Catalog.Tables} {settings : Settings}
    {clock : Clock} {schedule : (total : Nat) → Schedule total} {s final : RunState}
    {report : Report}
    (h : (audit source tables settings clock schedule).run s = (.ok report, final)) :
    ∃ rules, Registry.builtin tables = .ok rules ∧
      (Engine.audit { rules, settings, schedule := schedule rules.length } source clock).run s =
        (.ok report, final) := by
  unfold audit at h
  cases hrules : Registry.builtin tables with
  | error text =>
    rw [hrules] at h
    cases h
  | ok rules =>
    rw [hrules] at h
    exact ⟨rules, rfl, h⟩

/-! ### Modes -/

/-- The output of a run at another time. -/
def RunOutput.onClock (clock : Clock) (output : RunOutput) : RunOutput :=
  { output with clock }

/-- The report of a run at another time. -/
def Report.onClock (clock : Clock) (report : Report) : Report :=
  { report with timestamp := clock.startedAt, durationNanos := clock.elapsedNanos }

namespace Engine

variable {e e' : Engine} {source : Source} {clock clock' : Clock} {s : RunState}

/-- Engines that agree on what a run comes to return the same, the time aside. -/
theorem run_fst_onClock (hs : s.stage = .idle)
    (hends : ∀ paths, endsCancelled e.rules source s paths = endsCancelled e'.rules source s paths)
    (houtput : ∀ paths, e.outputOf source clock' s paths = e'.outputOf source clock' s paths) :
    ((e.run source clock).run s).1.map (RunOutput.onClock clock') =
      ((e'.run source clock').run s).1 := by
  rw [run_fst e source clock hs, run_fst e' source clock' hs]
  cases source.enumerate with
  | error err => rfl
  | ok paths =>
    simp only [hends paths, ← houtput paths]
    cases endsCancelled e'.rules source s paths with
    | true => rfl
    | false => rfl

/-- Engines whose runs come to the same, as far as it shows in a report, return the same report,
the time aside. They may run over different sources. -/
theorem audit_fst_congr {source' : Source} (hs : s.stage = .idle)
    (hfilter : e.settings.filter = e'.settings.filter)
    (h : (∃ err, source.enumerate = .error err ∧ source'.enumerate = .error err) ∨
      ∃ paths paths', source.enumerate = .ok paths ∧ source'.enumerate = .ok paths' ∧
        endsCancelled e.rules source s paths = endsCancelled e'.rules source' s paths' ∧
        ∀ filter : Filter,
          (e.outputOf source clock' s paths).report
              (filter.apply (e.outputOf source clock' s paths).findings) =
            (e'.outputOf source' clock' s paths').report
              (filter.apply (e'.outputOf source' clock' s paths').findings)) :
    ((e.audit source clock).run s).1.map (Report.onClock clock') =
      ((e'.audit source' clock').run s).1 := by
  rw [audit_fst e source clock hs, audit_fst e' source' clock' hs, run_fst e source clock hs,
    run_fst e' source' clock' hs, hfilter]
  cases Filter.compile e'.settings.filter with
  | error err => rfl
  | ok filter =>
    rcases h with ⟨err, henum, henum'⟩ | ⟨paths, paths', henum, henum', hends, hreport⟩
    · rw [henum, henum']
      rfl
    · simp only [henum, henum', hends]
      cases endsCancelled e'.rules source' s paths' with
      | true => rfl
      | false => exact congrArg Except.ok (hreport filter)

/-- Engines that agree on what a run over a source comes to, as far as it shows in a report, return
the same report, the time aside. -/
theorem audit_fst_onClock (hs : s.stage = .idle)
    (hfilter : e.settings.filter = e'.settings.filter)
    (hends : ∀ paths, endsCancelled e.rules source s paths = endsCancelled e'.rules source s paths)
    (hreport : ∀ (filter : Filter) paths,
      (e.outputOf source clock' s paths).report
          (filter.apply (e.outputOf source clock' s paths).findings) =
        (e'.outputOf source clock' s paths).report
          (filter.apply (e'.outputOf source clock' s paths).findings)) :
    ((e.audit source clock).run s).1.map (Report.onClock clock') =
      ((e'.audit source clock').run s).1 := by
  refine audit_fst_congr hs hfilter ?_
  cases henum : source.enumerate with
  | error err => exact Or.inl ⟨err, rfl, rfl⟩
  | ok paths =>
    exact Or.inr ⟨paths, paths, rfl, rfl, hends paths, fun filter => hreport filter paths⟩

end Engine

/-- **Running all rules at once is running them one after the other**: for every
schedule of the tasks the run returns the same error, or the same output and the
same report, the time aside. -/
theorem concurrent_outcome_eq_sequential (rules : List Rule) (settings : Settings)
    (schedule : Schedule rules.length) (source : Source) (clock clock' : Clock)
    (cancelled : Bool) (attempts : Nat) :
    let atOnce : Engine := { rules, settings := { settings with mode := .concurrent }, schedule }
    let inTurn : Engine := { rules, settings := { settings with mode := .sequential } }
    let start : RunState := { cancelled, attempts }
    ((atOnce.run source clock).run start).1.map (RunOutput.onClock clock') =
        ((inTurn.run source clock').run start).1 ∧
      ((atOnce.audit source clock).run start).1.map (Report.onClock clock') =
        ((inTurn.audit source clock').run start).1 := by
  intro atOnce inTurn start
  constructor
  · exact Engine.run_fst_onClock rfl (fun _ => rfl) (fun _ => rfl)
  · exact Engine.audit_fst_onClock rfl rfl (fun _ => rfl) (fun _ _ => rfl)

end PlatformAudit
