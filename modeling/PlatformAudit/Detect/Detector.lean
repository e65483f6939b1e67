import PlatformAudit.Detect.Ancestors
import PlatformAudit.Detect.Attributes
import PlatformAudit.Detect.Directives
import PlatformAudit.Detect.Literals
import PlatformAudit.Detect.Namespaces
import PlatformAudit.Detect.Types

/-!
# Detectors

The ways in which a rule can look at a unit, each with what it looks for.
-/

namespace PlatformAudit.Detect

/-- What to look for in a unit. -/
inductive Detector where
  | namespaces (names : List String)
  | types (refs : List TypeRef)
  | literals (patterns : LiteralPatterns)
  | attributes (names : List String)
  | ancestors (names : List String)
  | directives (tokens : List String)

/-- What a detector finds in a unit. -/
def Detector.find : Detector → Code.LoadedUnit → List Hit
  | .namespaces names => namespaceHits names
  | .types refs => typeHits refs
  | .literals patterns => literalHits patterns
  | .attributes names => attributeHits names
  | .ancestors names => ancestorHits names
  | .directives tokens => directiveHits tokens

end PlatformAudit.Detect
