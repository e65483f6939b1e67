import PlatformAudit.Document.Code
import PlatformAudit.Document.Risk
import PlatformAudit.Report.Basic
import PlatformAudit.Rule.Basic

/-!
# Reports in documents

A report keeps the duration of its run in whole milliseconds, as many as fit 64
bits.
-/

namespace PlatformAudit

open Json

/-- Reads an instant. -/
def Time.Timestamp.decoder : Decoder Time.Timestamp
  | _, .string s => do
    match Time.Timestamp.parse (← s.text) with
    | .ok t => return t
    | .error e => refuse (.invalid e.message)
  | _, v => mismatch v "an RFC 3339 formatted date and time string"

/-- Writes an instant. -/
def Time.Timestamp.encode (t : Time.Timestamp) : Value :=
  .text t.toText

namespace Stage

/-- The stages by name. -/
def known : List (String × Stage) :=
  all.map fun s => (s.name, s)

/-- Reads a stage. -/
def decoder : Decoder Stage :=
  Decoder.variant known none

/-- Writes a stage. -/
def encode (s : Stage) : Value :=
  .text s.name

end Stage

namespace UnitFailure

/-- Reads the failure of a rule on a unit. -/
def decoder : Decoder UnitFailure :=
  Record.decoder "UnitFailure" <|
    Record.build UnitFailure.mk
      |>.and (.required "path" Decoder.text)
      |>.and (.required "message" Decoder.text)

/-- Writes the failure of a rule on a unit. -/
def encode (f : UnitFailure) : Value :=
  .record [("path", .text f.path), ("message", .text f.message)]

end UnitFailure

namespace RuleFailure

/-- Reads the failure of a rule. -/
def decoder : Decoder RuleFailure :=
  Record.decoder "RuleFailure" <|
    Record.build RuleFailure.mk
      |>.and (.required "rule_id" Decoder.text)
      |>.and (.optional "unit" Decoder.text)
      |>.and (.required "message" Decoder.text)

/-- Writes the failure of a rule. -/
def encode (f : RuleFailure) : Value :=
  .record <|
    [("rule_id", .text f.ruleId)] ++ Value.fieldIf "unit" .text f.unit ++
      [("message", .text f.message)]

end RuleFailure

namespace SkippedUnit

/-- Reads a skipped unit. -/
def decoder : Decoder SkippedUnit :=
  Record.decoder "SkippedUnit" <|
    Record.build SkippedUnit.mk
      |>.and (.required "path" Decoder.text)
      |>.and (.required "reason" Decoder.text)

/-- Writes a skipped unit. -/
def encode (u : SkippedUnit) : Value :=
  .record [("path", .text u.path), ("reason", .text u.reason)]

end SkippedUnit

namespace Tool

/-- Reads what a report was made with. -/
def decoder : Decoder Tool :=
  Record.decoder "ToolInfo" <|
    Record.build Tool.mk
      |>.and (.required "name" Decoder.text)
      |>.and (.required "version" Decoder.text)
      |>.and (.required "rule_catalog_version" Decoder.text)

/-- Writes what a report was made with. -/
def encode (t : Tool) : Value :=
  .record
    [("name", .text t.name), ("version", .text t.version),
     ("rule_catalog_version", .text t.catalogVersion)]

end Tool

namespace Summary

/-- Reads the figures of a report. -/
def decoder : Decoder Summary :=
  Record.decoder "ResultSummary" <|
    Record.build Summary.mk
      |>.and (.required "by_severity" (Decoder.table (Key.named Severity.known) Decoder.count))
      |>.and (.required "by_category" (Decoder.table (Key.named Category.known) Decoder.count))
      |>.and (.required "total_effort_days" Decoder.real)
      |>.and (.required "findings_digest" Decoder.text)

/-- Writes the figures of a report. -/
def encode (s : Summary) : Value :=
  .record
    [("by_severity", .table Severity.name .nat s.bySeverity),
     ("by_category", .table Category.name .nat s.byCategory),
     ("total_effort_days", .real s.totalEffort),
     ("findings_digest", .text s.findingsDigest)]

end Summary

namespace Report

/-- The nanoseconds of a millisecond. -/
def nanosPerMilli : Nat := 1000000

/-- The whole milliseconds of a duration, as many as fit 64 bits. -/
def wholeMillis (nanos : Nat) : Nat :=
  min (nanos / nanosPerMilli) (UInt64.size - 1)

/-- Reads a duration. -/
def durationDecoder : Decoder Nat := fun room v =>
  (· * nanosPerMilli) <$> Decoder.natural64 room v

/-- Reads a report. -/
def decoder : Decoder Report :=
  Record.decoder "AnalysisResult" <|
    Record.build Report.mk
      |>.and (.required "schema_version" Decoder.text)
      |>.and (.required "tool" Tool.decoder)
      |>.and (.required "timestamp" Time.Timestamp.decoder)
      |>.and (.required "source_id" Decoder.text)
      |>.and (.required "status" Stage.decoder)
      |>.and (.required "duration_ms" durationDecoder)
      |>.and (.required "units_scanned" Decoder.count)
      |>.and (.required "dependency_inventory" (Decoder.table Literal.text Decoder.count))
      |>.and (.required "findings" Finding.decoder.list)
      |>.and (.required "rule_failures" RuleFailure.decoder.list)
      |>.and (.required "skipped_units" SkippedUnit.decoder.list)
      |>.and (.required "summary" Summary.decoder)

/-- Writes a report. -/
def encode (r : Report) : Value :=
  .record
    [("schema_version", .text r.schemaVersion), ("tool", r.tool.encode),
     ("timestamp", r.timestamp.encode), ("source_id", .text r.sourceId),
     ("status", r.status.encode), ("duration_ms", .nat (wholeMillis r.durationNanos)),
     ("units_scanned", .nat r.unitsScanned),
     ("dependency_inventory", .table id .nat r.dependencyInventory),
     ("findings", .list (r.findings.map (·.encode))),
     ("rule_failures", .list (r.ruleFailures.map (·.encode))),
     ("skipped_units", .list (r.skippedUnits.map (·.encode))),
     ("summary", r.summary.encode)]

end Report

end PlatformAudit
