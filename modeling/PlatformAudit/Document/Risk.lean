import PlatformAudit.Json.Record
import PlatformAudit.Risk.Finding

/-!
# Findings in documents
-/

namespace PlatformAudit

open Json

namespace Severity

/-- The severities by name. -/
def known : List (String × Severity) :=
  all.map fun s => (s.name, s)

/-- Reads a severity. -/
def decoder : Decoder Severity :=
  Decoder.variant known none

/-- Writes a severity. -/
def encode (s : Severity) : Value :=
  .text s.name

end Severity

namespace Category

/-- The categories by name. -/
def known : List (String × Category) :=
  all.map fun c => (c.name, c)

/-- Reads a category. -/
def decoder : Decoder Category :=
  Decoder.variant known none

/-- Writes a category. -/
def encode (c : Category) : Value :=
  .text c.name

end Category

namespace Finding

/-- A finding as a record. -/
def record : Record Finding :=
  Record.build Finding.mk
    |>.and (.required "file" Decoder.text)
    |>.and (.required "line" Decoder.word32)
    |>.and (.required "message" Decoder.text)
    |>.and (.required "recommendation" Decoder.text)
    |>.and (.required "severity" Severity.decoder)
    |>.and (.required "category" Category.decoder)
    |>.and (.required "ruleId" Decoder.text)

/-- Reads a finding. -/
def decoder : Decoder Finding :=
  record.decoder "Finding"

/-- Writes a finding. -/
def encode (f : Finding) : Value :=
  .record
    [("file", .text f.file), ("line", .nat f.line.toNat), ("message", .text f.message),
     ("recommendation", .text f.recommendation), ("severity", f.severity.encode),
     ("category", f.category.encode), ("ruleId", .text f.ruleId)]

end Finding

end PlatformAudit
