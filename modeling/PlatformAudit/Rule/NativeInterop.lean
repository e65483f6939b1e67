import PlatformAudit.Detect.Attributes
import PlatformAudit.Rule.Basic

/-!
# Calls into native libraries

A declaration that an attribute binds to a native library is reported if the
library is one of a table. A library is named with or without its directory and
its extension and in any case of letters.
-/

namespace PlatformAudit.NativeInterop

open Text Code Detect

/-- What the findings have in common. -/
def info : RuleInfo where
  id := "WIN002"
  name := "P/Invoke into Windows native library"
  category := .platformApi
  severity := .critical

/-- The name of a library without directory, extension and case. -/
def libraryStem (name : List Char) : List Char :=
  let file := (trim (afterLastOf (fun c => c = '/' || c = '\\') name)).map asciiLower
  (dropFinal? ".dll".toList file).getD file

/-- The library that an attribute names: the first literal in it. -/
def libraryOf? (attr : Node) : Option String :=
  (attr.descendants.find? (·.kind = .stringLiteral)).map (·.label)

/-- Whether a library is one of a table. -/
def isListed (libraries : List String) (library : String) : Bool :=
  libraries.any fun l => libraryStem l.toList = libraryStem library.toList

/-- The finding of an attribute on a declaration. -/
def finding? (attributes libraries : List String) (file : String) (owner attr : Node) :
    Option Finding := do
  let _ ← attributeNamed? attr.label attributes
  let library ← libraryOf? attr
  if !isListed libraries library then none
  let function := if owner.label.isEmpty then "<unnamed>" else owner.label
  return info.finding file attr.line
    ("P/Invoke '" ++ function ++ "' is bound to Windows library \"" ++ library ++ "\"")
    ("Replace the call into " ++ library ++ " with a managed API, or move it behind an " ++
      "interface with per-platform implementations.")

/-- The findings in a unit. -/
def findings (attributes libraries : List String) (u : LoadedUnit) : List Finding :=
  (attributesIn u.unit.root).filterMap fun (owner, attr) =>
    finding? attributes libraries u.unit.path owner attr

/-- The rule. -/
def rule (attributes libraries : List String) : Rule :=
  info.unitRule (findings attributes libraries)

end PlatformAudit.NativeInterop
