import PlatformAudit.Code.Workspace
import PlatformAudit.Risk.Finding

/-!
# Rules

A rule looks at all that was loaded and ends in one of four ways: with findings,
seeing that the run was cancelled, with a failure, or by crashing. It may also
cancel the run itself. Whether a run is cancelled is the only thing about it that
a rule can see, so a rule is a function of the loaded model and of that.

Most rules look at one unit after the other. `scanUnits` drives such a rule: it
stops before the next unit once the run is cancelled, and the failure of one unit
loses the findings of that unit and nothing else.
-/

namespace PlatformAudit

open Code

/-- The chain of explanations of a failure, the cause last. -/
structure Failure where
  /-- What was being done when it failed, outermost first. -/
  contexts : List String := []
  cause : String

namespace Failure

/-- The whole chain. -/
def full (f : Failure) : String :=
  String.intercalate ": " (f.contexts ++ [f.cause])

/-- The outermost explanation. -/
def outermost (f : Failure) : String :=
  f.contexts.headD f.cause

end Failure

/-- A unit that a rule could not look at. -/
structure UnitFailure where
  path : String
  message : String
  deriving DecidableEq

/-- What a rule found. -/
structure Outcome where
  findings : List Finding := []
  unitFailures : List UnitFailure := []
  deriving DecidableEq

/-- Two outcomes, one after the other. -/
def Outcome.append (a b : Outcome) : Outcome :=
  { findings := a.findings ++ b.findings, unitFailures := a.unitFailures ++ b.unitFailures }

/-- How a rule ends. -/
inductive RuleResult where
  | done (outcome : Outcome)
  /-- The rule saw that the run was cancelled. -/
  | cancelled
  | failed (failure : Failure)
  /-- The rule broke off, perhaps with an explanation. -/
  | crashed (detail : Option String)

/-- A rule. -/
structure Rule where
  id : String
  name : String
  category : Category
  /-- Looks at the model, given whether the run is cancelled, and tells whether it is afterwards. -/
  analyze : LoadedModel → (cancelled : Bool) → RuleResult × Bool

/-- What the findings of a rule have in common. -/
structure RuleInfo where
  id : String
  name : String
  category : Category
  severity : Severity

/-- A finding of a rule. -/
def RuleInfo.finding (i : RuleInfo) (file : String) (line : UInt32)
    (message recommendation : String) : Finding :=
  Finding.create i.id i.category i.severity file line message recommendation

/-- What a rule makes of one unit. -/
structure Inspection where
  findings : List Finding
  failure : Option Failure := none
  /-- The rule cancels the run. -/
  cancels : Bool := false

/-- The contribution of a unit to the outcome. -/
def Inspection.outcome (i : Inspection) (path : String) : Outcome :=
  match i.failure with
  | none => { findings := i.findings }
  | some f => { unitFailures := [{ path, message := f.full }] }

/-- Looks at one unit after the other until the run is cancelled. -/
def scanUnits (inspect : LoadedUnit → Inspection) : List LoadedUnit → (cancelled : Bool) →
    RuleResult × Bool
  | [], cancelled => (.done {}, cancelled)
  | _ :: _, true => (.cancelled, true)
  | u :: us, false =>
    let i := inspect u
    match scanUnits inspect us i.cancels with
    | (.done rest, cancelled) => (.done ((i.outcome u.unit.path).append rest), cancelled)
    | stopped => stopped

/-- A rule that looks at one unit after the other, never fails and never cancels. -/
def RuleInfo.unitRule (i : RuleInfo) (find : LoadedUnit → List Finding) : Rule where
  id := i.id
  name := i.name
  category := i.category
  analyze model cancelled := scanUnits (fun u => { findings := find u }) model.units cancelled

end PlatformAudit
