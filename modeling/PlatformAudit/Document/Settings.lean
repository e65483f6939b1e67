import PlatformAudit.Catalog.Tables
import PlatformAudit.Document.Risk
import PlatformAudit.Run.Settings

/-!
# Settings in documents

A document of settings overrides what it names and leaves the rest at its
default.
-/

namespace PlatformAudit

open Json

namespace Mode

/-- The modes by name. -/
def known : List (String × Mode) :=
  [sequential, concurrent].map fun m => (m.name, m)

/-- Reads a mode. -/
def decoder : Decoder Mode :=
  Decoder.variant known none

/-- Writes a mode. -/
def encode (m : Mode) : Value :=
  .text m.name

end Mode

/-- Writes a list of texts. -/
def encodeTexts (texts : List String) : Value :=
  .list (texts.map .text)

namespace FilterSettings

/-- The settings of a filter as a record. -/
def record : Record FilterSettings :=
  let d : FilterSettings := {}
  Record.build FilterSettings.mk
    |>.and (.withDefault "min_severity" Severity.decoder d.minSeverity)
    |>.and (.withDefault "exclude_patterns" Decoder.text.list d.excludePatterns)

/-- Reads the settings of a filter. -/
def decoder : Decoder FilterSettings :=
  record.decoder "FilterConfig"

/-- Writes the settings of a filter. -/
def encode (s : FilterSettings) : Value :=
  .record
    [("min_severity", s.minSeverity.encode), ("exclude_patterns", encodeTexts s.excludePatterns)]

end FilterSettings

namespace Settings

/-- The settings of a run as a record. -/
def record : Record Settings :=
  let d : Settings := {}
  Record.build Settings.mk
    |>.and (.withDefault "mode" Mode.decoder d.mode)
    |>.and (.withDefault "unit_advisories" Decoder.bool d.unitAdvisories)
    |>.and (.withDefault "filter" FilterSettings.decoder d.filter)

/-- Reads the settings of a run. -/
def decoder : Decoder Settings :=
  record.decoder "EngineConfig"

/-- Writes the settings of a run. -/
def encode (s : Settings) : Value :=
  .record
    [("mode", s.mode.encode), ("unit_advisories", .bool s.unitAdvisories),
     ("filter", s.filter.encode)]

end Settings

end PlatformAudit
