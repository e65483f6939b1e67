import PlatformAudit.Detect.Hit
import PlatformAudit.Pattern.Compile

/-!
# Patterns in string literals

Every literal is tried against some labelled patterns, and each that is found in
it is a hit of its own. A literal that contains a safe pattern is passed over.
-/

namespace PlatformAudit.Detect

open Code Pattern

/-- Patterns with labels, and the patterns that make a literal safe. -/
structure LiteralPatterns where
  labelled : List (String × CharPattern)
  safe : List CharPattern

/-- Reads a pattern; a text that is none is given back. -/
def compilePattern (text : String) : Except String CharPattern :=
  match CharPattern.parse text with
  | some p => .ok p
  | none => .error text

namespace LiteralPatterns

/-- Reads labelled patterns and then safe patterns; the first text that is no pattern is given
back. -/
def compile (labelled : List (String × String)) (safe : List String) :
    Except String LiteralPatterns := do
  let labelled ← labelled.mapM fun (label, text) => do return (label, ← compilePattern text)
  let safe ← safe.mapM compilePattern
  return { labelled, safe }

/-- Whether a value contains a safe pattern. -/
def isSafe (p : LiteralPatterns) (value : String) : Bool :=
  p.safe.any (·.foundIn value)

/-- The labels of the patterns that are found in a value. -/
def labelsOf (p : LiteralPatterns) (value : String) : List String :=
  if value.isEmpty || p.isSafe value then []
  else (p.labelled.filter fun (_, pattern) => pattern.foundIn value).map (·.1)

end LiteralPatterns

/-- The hits in a node. -/
def literalHitsAt (p : LiteralPatterns) (node : Node) : List Hit :=
  if node.kind = .stringLiteral then
    (p.labelsOf node.label).map fun label =>
      { line := node.line, subject := node.label, evidence := label }
  else []

/-- The hits in the string literals of a unit. -/
def literalHits (p : LiteralPatterns) (u : LoadedUnit) : List Hit :=
  u.unit.root.descendants.flatMap (literalHitsAt p)

end PlatformAudit.Detect
