import PlatformAudit.Glob.Meaning
import PlatformAudit.Risk.Finding
import PlatformAudit.Run.Error
import PlatformAudit.Run.Settings
import PlatformAudit.Text.Lowercase

/-!
# Which findings are reported

A finding is reported if it is grave enough and its file is not excluded. An
exclude pattern with a wildcard is a glob for the whole path; any other excludes
the paths that contain it, without regard to case. Paths and patterns are compared
with slashes as separators and without leading `./`.
-/

namespace PlatformAudit

open Text

/-- Drops leading references to the current directory. -/
def dropCurrentDirectory : List Char → List Char
  | '.' :: '/' :: cs => dropCurrentDirectory cs
  | cs => cs

/-- A path with slashes as separators and without leading references to the current directory. -/
def normalizePath (path : List Char) : List Char :=
  dropCurrentDirectory (path.map fun c => if c = '\\' then '/' else c)

/-- Whether a pattern is a glob. -/
def hasWildcard (pattern : List Char) : Bool :=
  pattern.any fun c => c = '*' || c = '?' || c = '[' || c = '\x7b'

/-- An exclude pattern. -/
inductive Exclusion where
  | glob (p : Glob.BytePattern)
  /-- A text in lower case that an excluded path contains. -/
  | part (needle : List Char)

namespace Exclusion

/-- Reads an exclude pattern. -/
def compile (pattern : String) : Except ConfigError Exclusion :=
  let normalized := normalizePath pattern.toList
  if hasWildcard normalized then
    match Glob.compile normalized with
    | .ok p => .ok (.glob p)
    | .error e => .error (.exclusion pattern (String.ofList normalized) e)
  else .ok (.part (lowercase normalized))

/-- Whether a normalized path is excluded. -/
def covers : Exclusion → List Char → Bool
  | .glob p, path => p.matchesPath path
  | .part needle, path => occursIn needle (lowercase path)

end Exclusion

/-- Which findings are reported. -/
structure Filter where
  minSeverity : Severity
  exclusions : List Exclusion

namespace Filter

/-- Reads the settings of a filter. -/
def compile (s : FilterSettings) : Except ConfigError Filter := do
  let exclusions ← s.excludePatterns.mapM Exclusion.compile
  return { minSeverity := s.minSeverity, exclusions }

/-- Whether a finding is grave enough. -/
def passesSeverity (f : Filter) (finding : Finding) : Bool :=
  f.minSeverity ≤ finding.severity

/-- Whether a finding is in an excluded file. -/
def excludes (f : Filter) (finding : Finding) : Bool :=
  let path := normalizePath finding.file.toList
  f.exclusions.any (·.covers path)

/-- Whether a finding is reported. -/
def keeps (f : Filter) (finding : Finding) : Bool :=
  f.passesSeverity finding && !f.excludes finding

/-- The findings that are reported, in their order. -/
def apply (f : Filter) (findings : List Finding) : List Finding :=
  findings.filter f.keeps

end Filter

end PlatformAudit
