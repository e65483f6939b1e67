import PlatformAudit.Report.Basic
import PlatformAudit.Rule.Basic
import PlatformAudit.Run.Error
import PlatformAudit.Run.Settings

/-!
# Running rules over a source

A run lists the units, loads them one by one, and hands what was loaded to every
rule. It stops as soon as it sees that it was cancelled: before each load, before
each rule, and at the end. Rules are isolated from each other: one that fails or
crashes is recorded, and the others run as if it were not there.

Rules run one after the other or all at once. In the second case the tasks begin,
end and are collected in an order that nobody fixes; that order is a **schedule**, a
parameter of the run, and the results are put back in the order of the rules.

The steps that an observer is told of are the events of the run.
-/

namespace PlatformAudit

open Code

/-- What an observer is told. -/
inductive Event where
  | started (ruleId : String) (index total : Nat)
  | finished (ruleId : String) (findings : Nat) (failed : Bool)
  deriving DecidableEq

/-- The result of a rule, judged against the state of the run. -/
inductive Settled where
  | done (outcome : Outcome)
  | failed (message : String)
  | cancelled

namespace Settled

/-- Judges the result of a rule. A rule that reports a cancellation when there was none has
failed. -/
def judge (result : RuleResult) (cancelled : Bool) : Settled :=
  match result with
  | .done outcome => .done outcome
  | .cancelled =>
    if cancelled then .cancelled
    else .failed "rule reported cancellation without a cancelled run"
  | .failed failure => .failed failure.full
  | .crashed detail => .failed ("rule panicked: " ++ detail.getD "non-string panic payload")

/-- The event of the end of a rule. -/
def finished (s : Settled) (rule : Rule) : Event :=
  match s with
  | .done o => .finished rule.id o.findings.length (!o.unitFailures.isEmpty)
  | .failed _ => .finished rule.id 0 true
  | .cancelled => .finished rule.id 0 false

end Settled

/-! ### One after the other -/

/-- The results of rules, what the observer was told, which rules looked at the model, and whether
the run is cancelled. -/
structure Phase where
  settled : List Settled
  events : List Event
  /-- The indices of the rules that looked at the model, in the order in which they began. -/
  analyzed : List Nat
  cancelled : Bool

/-- Runs rules one after the other, the first at an index. -/
def runInTurn (model : LoadedModel) (total : Nat) : (index : Nat) → List Rule →
    (cancelled : Bool) → Phase
  | _, [], cancelled => { settled := [], events := [], analyzed := [], cancelled }
  | _, _ :: _, true => { settled := [.cancelled], events := [], analyzed := [], cancelled := true }
  | index, rule :: rules, false =>
    let (result, cancelled) := rule.analyze model false
    let settled := Settled.judge result cancelled
    let events := [.started rule.id index total, settled.finished rule]
    match settled with
    | .cancelled => { settled := [settled], events, analyzed := [index], cancelled }
    | _ =>
      let rest := runInTurn model total (index + 1) rules cancelled
      { rest with
        settled := settled :: rest.settled
        events := events ++ rest.events
        analyzed := index :: rest.analyzed }

/-! ### All at once -/

/-- Where the task of a rule stands. -/
inductive TaskState where
  | pending
  /-- The task has begun. What it saw then settles how it will end, and whether it will have
  cancelled the run by then. -/
  | running (result : RuleResult) (cancels : Bool)
  /-- The task has ended and waits to be collected. -/
  | ended (result : RuleResult)
  /-- The result was collected and judged. -/
  | collected (settled : Settled)

namespace TaskState

/-- Moves on the task of a rule, given whether the run is cancelled, and tells whether it is
afterwards. -/
def next (rule : Rule) (model : LoadedModel) (cancelled : Bool) : TaskState → TaskState × Bool
  | .pending =>
    let (result, cancels) := rule.analyze model cancelled
    (.running result cancels, cancelled)
  | .running result cancels => (.ended result, cancelled || cancels)
  | .ended result => (.collected (.judge result cancelled), cancelled)
  | .collected settled => (.collected settled, cancelled)

/-- Whether a task has not begun. -/
def isPending : TaskState → Bool
  | .pending => true
  | _ => false

/-- The result of a task, or that there is none. -/
def settled : TaskState → Settled
  | .collected s => s
  | _ => .failed "rule task produced no result"

end TaskState

/-- The order in which tasks move on. Each time that its index comes up, a task takes a step: it
begins, it ends, it is collected. So tasks may overlap, and some may be collected before others
have begun; but all are collected in the end. A task that cancels the run does so in the step in
which it ends: what it does after that concerns only its result, which may be collected any time
later. -/
structure Schedule (total : Nat) where
  steps : List Nat
  fair : ∀ index < total, 3 ≤ steps.count index

/-- The schedule in which tasks run one by one in order and are then collected in order. -/
def Schedule.inOrder (total : Nat) : Schedule total where
  steps := (List.range total).flatMap (fun index => [index, index]) ++ List.range total
  fair := by
    induction total with
    | zero => exact fun _ h => absurd h (Nat.not_lt_zero _)
    | succ n ih =>
      intro index h
      simp only [List.range_succ, List.flatMap_append, List.count_append] at ih ⊢
      rcases Nat.lt_succ_iff_lt_or_eq.mp h with h | rfl
      · have := ih index h
        omega
      · simp

/-- The tasks of a run of all rules at once. -/
structure Tasks where
  /-- The rules in order, and where their tasks stand. -/
  tasks : List (Rule × TaskState)
  /-- The indices of the tasks that have begun, in the order in which they did. -/
  analyzed : List Nat := []
  cancelled : Bool

namespace Tasks

/-- The tasks of some rules before any of them has begun. -/
def ofRules (rules : List Rule) (cancelled : Bool) : Tasks :=
  { tasks := rules.map fun rule => (rule, .pending), cancelled }

/-- Moves on the task at an index. -/
def step (model : LoadedModel) (t : Tasks) (index : Nat) : Tasks :=
  match t.tasks[index]? with
  | none => t
  | some (rule, state) =>
    let (next, cancelled) := state.next rule model t.cancelled
    { tasks := t.tasks.set index (rule, next)
      analyzed := if state.isPending then t.analyzed ++ [index] else t.analyzed
      cancelled }

/-- Moves on tasks in the order of some steps. -/
def run (model : LoadedModel) (t : Tasks) (steps : List Nat) : Tasks :=
  steps.foldl (step model) t

end Tasks

/-- Runs all rules at once, by a schedule. -/
def runAtOnce (model : LoadedModel) (rules : List Rule) (schedule : Schedule rules.length)
    (cancelled : Bool) : Phase :=
  let t := (Tasks.ofRules rules cancelled).run model schedule.steps
  let settled := t.tasks.map (·.2.settled)
  { settled
    events :=
      rules.mapIdx (fun index rule => .started rule.id index rules.length) ++
        List.zipWith (fun rule s => Settled.finished s rule) rules settled
    analyzed := t.analyzed
    cancelled := t.cancelled }

/-! ### Runs -/

/-- What a run has changed so far. -/
structure RunState where
  cancelled : Bool
  /-- How many units it has tried to load, earlier runs on the same source included. -/
  attempts : Nat := 0
  stage : Stage := .idle
  events : List Event := []
  /-- Which rules, by their indices, looked at what. -/
  analyses : List (Nat × LoadedModel) := []

/-- A part of a run. What it has changed remains when it ends in an error. -/
abbrev RunM := ExceptT RunError (StateM RunState)

/-- Goes on to a stage. -/
def advance (next : Stage) : RunM Unit := do
  match (← get).stage.advance next with
  | .ok stage => modify fun s => { s with stage }
  | .error e => throw e

/-- Ends a run that was cancelled. -/
def giveUp : RunM α := do
  advance .cancelled
  throw .cancelled

/-- The rule in whose name the advice on units that could not be loaded is given. -/
def unitAdvice : RuleInfo where
  id := "ENG001"
  name := "Unit could not be analyzed"
  category := .general
  severity := .info

/-- What was loaded so far. -/
structure Loading where
  units : List LoadedUnit := []
  skipped : List SkippedUnit := []
  advice : List Finding := []

/-- What the rules look at. -/
def Loading.model (l : Loading) (source : Source) : LoadedModel :=
  { sourceId := source.sourceId, units := l.units, packages := source.packages }

/-- The advice on a unit that could not be loaded. -/
def adviceOn (path : String) (error : SourceError) : Finding :=
  unitAdvice.finding path 1 ("Unit could not be analyzed: " ++ error.message)
    ("Fix the file so it can be parsed, then re-run the analysis; its portability risks are " ++
      "not reflected in this report.")

/-- Adds a unit, or the fact that it could not be loaded. -/
def Loading.add (l : Loading) (advise : Bool) (path : String) :
    Except SourceError LoadedUnit → Loading
  | .ok u => { l with units := l.units ++ [u] }
  | .error e =>
    { l with
      skipped := l.skipped ++ [{ path, reason := e.message }]
      advice := if advise then l.advice ++ [adviceOn path e] else l.advice }

/-- Loads units one by one. -/
def loadUnits (source : Source) (advise : Bool) : List String → Loading → RunM Loading
  | [], loading => return loading
  | path :: paths, loading => do
    let s ← get
    if s.cancelled then giveUp
    let attempt := source.load s.attempts path
    set { s with attempts := s.attempts + 1, cancelled := attempt.cancels }
    loadUnits source advise paths (loading.add advise path attempt.result)

/-- The failures and findings of a rule. -/
def contribution (rule : Rule) : Outcome → List RuleFailure × List Finding
  | { findings, unitFailures } =>
    (unitFailures.map fun f => { ruleId := rule.id, unit := some f.path, message := f.message },
      findings)

/-- Puts together what the rules found; nothing if one of them saw that the run was cancelled. -/
def merge : List (Rule × Settled) → Option (List RuleFailure × List Finding)
  | [] => some ([], [])
  | (rule, .done outcome) :: rest => do
    let (failures, findings) := contribution rule outcome
    let (moreFailures, moreFindings) ← merge rest
    return (failures ++ moreFailures, findings ++ moreFindings)
  | (rule, .failed message) :: rest => do
    let (failures, findings) ← merge rest
    return ({ ruleId := rule.id, message } :: failures, findings)
  | (_, .cancelled) :: _ => none

/-- What runs rules: the rules, the settings, and the schedule of a run of all rules at once. -/
structure Engine where
  rules : List Rule
  settings : Settings
  schedule : Schedule rules.length := Schedule.inOrder rules.length

namespace Engine

/-- Runs the rules. -/
def runRules (e : Engine) (model : LoadedModel) (cancelled : Bool) : Phase :=
  match e.settings.mode with
  | .sequential => runInTurn model e.rules.length 0 e.rules cancelled
  | .concurrent => runAtOnce model e.rules e.schedule cancelled

/-- Runs the rules on what was loaded from a source. -/
def runOn (e : Engine) (source : Source) (clock : Clock) (loading : Loading) :
    RunM RunOutput := do
  advance .running
  let model := loading.model source
  let phase := e.runRules model (← get).cancelled
  modify fun s =>
    { s with
      cancelled := phase.cancelled
      events := s.events ++ phase.events
      analyses := s.analyses ++ phase.analyzed.map fun index => (index, model) }
  match merge (e.rules.zip phase.settled), phase.cancelled with
  | some (ruleFailures, findings), false =>
    return {
      sourceId := source.sourceId
      clock
      unitsScanned := loading.units.length
      packages := source.packages
      findings := loading.advice ++ findings
      ruleFailures
      skippedUnits := loading.skipped }
  | _, _ => giveUp

/-- Loads a source and runs the rules on it. -/
def run (e : Engine) (source : Source) (clock : Clock) : RunM RunOutput := do
  advance .loading
  match source.enumerate with
  | .error err => do
    advance .fatal
    throw (.fatalLoad err)
  | .ok paths => do
    let loading ← loadUnits source e.settings.unitAdvisories paths {}
    e.runOn source clock loading

end Engine

end PlatformAudit
