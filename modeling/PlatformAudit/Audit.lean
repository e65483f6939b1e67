import PlatformAudit.Report.Filter
import PlatformAudit.Rule.Registry
import PlatformAudit.Run.Execution

/-!
# The audit of a source

Runs rules over a source, leaves out the findings that the settings exclude, and
makes the report. The settings are read before anything else, so a setting that
cannot be used is reported even if the source cannot be loaded.
-/

namespace PlatformAudit

/-- Runs an engine and makes the report. -/
def Engine.audit (e : Engine) (source : Code.Source) (clock : Clock) : RunM Report := do
  match Filter.compile e.settings.filter with
  | .error err => throw (.config err)
  | .ok filter => do
    let output ← e.run source clock
    advance .aggregating
    let report := output.report (filter.apply output.findings)
    advance .complete
    return report

/-- Runs the built-in rules over a source and makes the report. -/
def audit (source : Code.Source) (tables : Catalog.Tables) (settings : Settings) (clock : Clock)
    (schedule : (total : Nat) → Schedule total := Schedule.inOrder) : RunM Report := do
  match Registry.builtin tables with
  | .error text => throw (.config (.literalPattern text))
  | .ok rules => Engine.audit { rules, settings, schedule := schedule rules.length } source clock

end PlatformAudit
