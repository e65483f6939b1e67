import PlatformAudit.Risk.Severity

/-!
# Settings of a run
-/

namespace PlatformAudit

/-- How rules are scheduled. -/
inductive Mode where
  /-- One rule after the other. -/
  | sequential
  /-- All rules at once; their results are put back in order. -/
  | concurrent
  deriving DecidableEq

/-- The name of a mode. -/
def Mode.name : Mode → String
  | .sequential => "sequential"
  | .concurrent => "concurrent"

/-- Which findings are reported. -/
structure FilterSettings where
  /-- Findings weaker than this are left out. -/
  minSeverity : Severity := .info
  /-- Findings in files that match one of these are left out. -/
  excludePatterns : List String := []
  deriving DecidableEq

/-- The settings of a run. -/
structure Settings where
  mode : Mode := .sequential
  /-- Whether a unit that cannot be loaded is reported. -/
  unitAdvisories : Bool := true
  filter : FilterSettings := {}
  deriving DecidableEq

end PlatformAudit
