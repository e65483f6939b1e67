import PlatformAudit.Code.Workspace
import PlatformAudit.Risk.Finding
import PlatformAudit.Run.Stage
import PlatformAudit.Table
import PlatformAudit.Time.Timestamp

/-!
# Reports

The raw output of a run, and the report that is made of it: everything in a fixed
order, counted by severity, category and package, with the effort that the
findings stand for and a digest of them.
-/

namespace PlatformAudit

/-- A rule that failed, on one unit or altogether. -/
structure RuleFailure where
  ruleId : String
  unit : Option String := none
  message : String
  deriving DecidableEq

/-- A unit that could not be loaded. -/
structure SkippedUnit where
  path : String
  reason : String
  deriving DecidableEq

/-- When a run began and how many nanoseconds it took. -/
structure Clock where
  startedAt : Time.Timestamp
  elapsedNanos : Nat
  deriving DecidableEq

/-- What a run gives before anything is filtered or sorted. -/
structure RunOutput where
  sourceId : String
  clock : Clock
  /-- The number of units that were loaded. -/
  unitsScanned : Nat
  packages : List Code.Package
  /-- Advice on units that could not be loaded, then the findings of the rules in order. -/
  findings : List Finding
  ruleFailures : List RuleFailure
  skippedUnits : List SkippedUnit

/-- What a report was made with. -/
structure Tool where
  name : String := "porta"
  version : String := "0.1.0"
  catalogVersion : String := "0.1.0"
  deriving DecidableEq

/-- The figures of a report. -/
structure Summary where
  bySeverity : Table Severity Nat
  byCategory : Table Category Nat
  /-- Days of work. -/
  totalEffort : Float
  findingsDigest : String

/-- The report of a run. -/
structure Report where
  schemaVersion : String := "0.1.0"
  tool : Tool := {}
  timestamp : Time.Timestamp
  sourceId : String
  status : Stage
  durationNanos : Nat
  unitsScanned : Nat
  dependencyInventory : Table String Nat
  findings : List Finding
  ruleFailures : List RuleFailure
  skippedUnits : List SkippedUnit
  summary : Summary

/-! ### Order -/

/-- The order of failures: by rule, and those of a rule altogether before those on units. -/
def RuleFailure.order : RuleFailure → RuleFailure → Ordering :=
  compareLex (compareOn ruleId) (compareOn RuleFailure.unit)

/-- Failures in the order of a report. -/
def RuleFailure.sort (fs : List RuleFailure) : List RuleFailure :=
  fs.mergeSort fun a b => (order a b).isLE

/-- Skipped units in the order of a report. -/
def SkippedUnit.sort (us : List SkippedUnit) : List SkippedUnit :=
  us.mergeSort fun a b => (compare a.path b.path).isLE

/-! ### Figures -/

/-- How many findings there are of each severity, those without any included. -/
def countBySeverity (fs : List Finding) : Table Severity Nat :=
  (Table.ofList (Severity.all.map fun s => (s, 0))).countOn (fs.map (·.severity))

/-- How many findings there are of each category that has any. -/
def countByCategory (fs : List Finding) : Table Category Nat :=
  Table.tally (fs.map (·.category))

/-- The effort that findings stand for, added up from left to right. The sum of none is negative
zero, the neutral element of floating-point addition. -/
def totalEffort (fs : List Finding) : Float :=
  fs.foldl (fun sum f => sum + f.severity.effort) (-0.0)

/-- The figures of findings in order. -/
def summarize (fs : List Finding) : Summary where
  bySeverity := countBySeverity fs
  byCategory := countByCategory fs
  totalEffort := totalEffort fs
  findingsDigest := Finding.listDigest fs

/-- How often each package is referred to. -/
def inventory (packages : List Code.Package) : Table String Nat :=
  Table.tally (packages.map (·.name))

/-- The report of a run with the findings that were kept. -/
def RunOutput.report (run : RunOutput) (kept : List Finding) : Report :=
  let findings := Finding.sort kept
  { timestamp := run.clock.startedAt
    sourceId := run.sourceId
    status := .complete
    durationNanos := run.clock.elapsedNanos
    unitsScanned := run.unitsScanned
    dependencyInventory := inventory run.packages
    findings
    ruleFailures := RuleFailure.sort run.ruleFailures
    skippedUnits := SkippedUnit.sort run.skippedUnits
    summary := summarize findings }

end PlatformAudit
