import PlatformAudit.Detect.Detector
import PlatformAudit.Rule.Basic

/-!
# Rules that report hits

The plainest rule makes a finding of every hit of a detector. Its message and
recommendation are templates in which the subject and the evidence of the hit are
filled in, the subject first.
-/

namespace PlatformAudit

open Detect

/-- The place of the subject in a template. -/
def subjectMark : List Char :=
  "\x7bsubject\x7d".toList

/-- The place of the evidence in a template. -/
def evidenceMark : List Char :=
  "\x7bevidence\x7d".toList

/-- Fills in a template. -/
def fillIn (template : String) (hit : Hit) : String :=
  let withSubject := Text.replaceAll subjectMark hit.subject.toList template.toList
  String.ofList (Text.replaceAll evidenceMark hit.evidence.toList withSubject)

/-- A rule that reports the hits of a detector. -/
structure DetectionRule where
  info : RuleInfo
  detector : Detector
  message : String
  recommendation : String

namespace DetectionRule

/-- The finding of a hit in a file. -/
def finding (r : DetectionRule) (file : String) (hit : Hit) : Finding :=
  r.info.finding file hit.line (fillIn r.message hit) (fillIn r.recommendation hit)

/-- The findings in a unit. -/
def findings (r : DetectionRule) (u : Code.LoadedUnit) : List Finding :=
  (r.detector.find u).map (r.finding u.unit.path)

/-- The rule. -/
def rule (r : DetectionRule) : Rule :=
  r.info.unitRule r.findings

end DetectionRule

end PlatformAudit
