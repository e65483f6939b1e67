import PlatformAudit.Code.Workspace
import PlatformAudit.Text.Ascii
import PlatformAudit.Text.Blank

/-!
# Hits

What a detector finds in a unit: a line, what was matched on, and why it matched.
Hits are never merged, so two detectors that find the same place report it twice.

Two ways of looking at names are shared by several detectors: the simple name of a
type, and a search of the tree that stops below whatever it finds.
-/

namespace PlatformAudit.Detect

open Text Code

/-- A match in a unit. -/
structure Hit where
  line : UInt32
  /-- What was matched on. -/
  subject : String
  /-- Why it matched. -/
  evidence : String
  deriving DecidableEq

/-- The last segment of a name, without type arguments. -/
def simpleName (name : List Char) : List Char :=
  afterLast '.' (trim (beforeFirst '<' name))

/-- The visitor that collects what `f` finds and passes over the children of a node where it finds
something. -/
def collector (f : Node → Option α) : Node.Visitor (List α) where
  enter node _ found :=
    match f node with
    | some a => (false, found ++ [a])
    | none => (true, found)
  leave _ _ found := found

/-- What `f` finds in a tree, leaving out what stands below something found. -/
def collect (f : Node → Option α) (root : Node) : List α :=
  root.walk (collector f) 0 []

end PlatformAudit.Detect
