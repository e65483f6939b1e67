import PlatformAudit.Pattern.CharSet

/-!
# Patterns as they are written

The tree of a pattern keeps what its meaning does not show: which parts stood in
parentheses and whether those capture, whether a repetition is greedy, where flags
were changed, and how deeply classes were nested. Its depth is limited, and it
decides how large the automaton of the pattern is; what it matches is an expression.

Flags take effect where they are read, so the leaves of a tree are classes and
conditions that no longer depend on any.
-/

namespace PlatformAudit.Pattern

/-- A pattern as it is written. -/
inductive Tree where
  | empty
  /-- A change of flags, which matches the empty text. -/
  | flags
  /-- One character of a class; `nesting` is the depth of the class itself. -/
  | symbol (s : CharSet) (nesting : Nat)
  | boundary (b : Boundary)
  | group (captures : Bool) (body : Tree)
  /-- Two or more parts, one after the other. -/
  | concat (parts : List Tree)
  /-- Two or more alternatives. -/
  | choice (branches : List Tree)
  | repetition (least : Nat) (greatest : Option Nat) (greedy : Bool) (body : Tree)

namespace Tree

/-- Parts one after the other; a single part stands for itself. -/
def ofParts : List Tree → Tree
  | [] => .empty
  | [t] => t
  | ts => .concat ts

/-- Alternatives; a single one stands for itself. -/
def ofBranches : List Tree → Tree
  | [] => .empty
  | [t] => t
  | ts => .choice ts

/-- Whether there is something to repeat. -/
def isRepeatable : Tree → Bool
  | .empty | .flags => false
  | _ => true

mutual

/-- The depth of a tree. Parts and alternatives count as one level each, whatever their number. -/
def depth : Tree → Nat
  | .empty | .flags | .boundary _ => 0
  | .symbol _ nesting => nesting
  | .group _ body => body.depth + 1
  | .concat parts => depthOfAll parts + 1
  | .choice branches => depthOfAll branches + 1
  | .repetition _ _ _ body => body.depth + 1

/-- The greatest depth of some trees. -/
def depthOfAll : List Tree → Nat
  | [] => 0
  | t :: ts => max t.depth (depthOfAll ts)

end

mutual

/-- What a tree matches. -/
def meaning : Tree → CharPattern
  | .empty | .flags => .empty
  | .symbol s _ => .symbol s
  | .boundary b => .boundary b
  | .group _ body => body.meaning
  | .concat parts => Expr.sequence (meanings parts)
  | .choice branches => Expr.choice (meanings branches)
  | .repetition least greatest _ body => .many least greatest body.meaning

/-- What some trees match. -/
def meanings : List Tree → List CharPattern
  | [] => []
  | t :: ts => t.meaning :: meanings ts

end

end Tree

/-- The depth beyond which a pattern is refused. -/
def depthLimit : Nat := 250

end PlatformAudit.Pattern
