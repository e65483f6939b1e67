import PlatformAudit.Detect.Hit
import PlatformAudit.Rule.Basic

/-!
# Session state in memory

A unit that sets up session state in memory is reported at every such place,
unless it also sets up a store that outlives the process. That is decided for the
unit as a whole, wherever the store is set up.
-/

namespace PlatformAudit.SessionStore

open Text Code Detect

/-- What the findings have in common. -/
def info : RuleInfo where
  id := "CFG002"
  name := "In-process session state"
  category := .configuration
  severity := .medium

/-- The name of the method that an invocation calls. -/
def invokedMethod (text : List Char) : List Char :=
  simpleName (beforeFirst '(' text)

/-- Whether a method is one of some markers. -/
def isMarker (markers : List String) (method : List Char) : Bool :=
  markers.any fun m => sameIgnoringCase m.toList method

/-- The lines and methods of all invocations in a tree. -/
def invocations (root : Node) : List (UInt32 × List Char) :=
  (root.descendants.filter (·.kind = .invocation)).map fun n =>
    (n.line, invokedMethod n.label.toList)

/-- The finding of a place that keeps session state in memory. -/
def finding (file : String) (line : UInt32) (method : List Char) : Finding :=
  info.finding file line (String.ofList method ++ " keeps session state in process memory")
    ("Back session state with a distributed cache (Redis, SQL Server) so it survives restarts " ++
      "and is shared across instances.")

/-- The findings in a unit. -/
def findings (inMemory persistent : List String) (u : LoadedUnit) : List Finding :=
  let calls := invocations u.unit.root
  if calls.any fun (_, method) => isMarker persistent method then []
  else
    (calls.filter fun (_, method) => isMarker inMemory method).map fun (line, method) =>
      finding u.unit.path line method

/-- The rule. -/
def rule (inMemory persistent : List String) : Rule :=
  info.unitRule (findings inMemory persistent)

end PlatformAudit.SessionStore
