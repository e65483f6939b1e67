import PlatformAudit.Code.Workspace
import PlatformAudit.Glob.Token
import PlatformAudit.Json.Decoder
import PlatformAudit.Run.Stage

/-!
# Why a run gives no report

Failures of single units and of single rules are part of a report. Only what
leaves nothing to report is an error.
-/

namespace PlatformAudit

/-- A setting that cannot be used. -/
inductive ConfigError where
  /-- An exclude pattern, as given and as it was read, that is no glob. -/
  | exclusion (pattern : String) (normalized : String) (error : Glob.Error)
  /-- A text that is no pattern for literals. -/
  | literalPattern (pattern : String)
  /-- A document that cannot be read. -/
  | document (error : Json.DecodeError)

/-- The message about a document whose content is refused; a text that is no document has
none. -/
def documentMessage : Json.DecodeError → Option String
  | .fault _ => none
  | .content m => some ("invalid configuration document: " ++ m.message)

/-- The message of an error. -/
def ConfigError.message : ConfigError → String
  | .exclusion pattern normalized error =>
    "invalid exclude pattern " ++ Text.quoted pattern ++ ": error parsing glob '" ++ normalized ++
      "': " ++ error.message
  | .literalPattern pattern => "invalid literal pattern " ++ Text.quoted pattern
  | .document error => (documentMessage error).getD "invalid configuration document"

/-- Why a run gives no report. -/
inductive RunError where
  | fatalLoad (error : Code.SourceError)
  | cancelled
  | config (error : ConfigError)
  | invalidTransition (start target : Stage)

/-- The message of an error. -/
def RunError.message : RunError → String
  | .fatalLoad error => "source model could not be loaded: " ++ error.message
  | .cancelled => "analysis cancelled by caller"
  | .config error => "configuration error: " ++ error.message
  | .invalidTransition start target =>
    "invalid run state transition: " ++ start.title ++ " -> " ++ target.title

/-- Goes on to a stage, or refuses to. -/
def Stage.advance (current next : Stage) : Except RunError Stage :=
  if current.canAdvanceTo next then .ok next else .error (.invalidTransition current next)

end PlatformAudit
