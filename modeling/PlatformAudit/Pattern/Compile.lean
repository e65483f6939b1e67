import PlatformAudit.Pattern.Automaton
import PlatformAudit.Pattern.Parser

/-!
# Reading patterns within limits

A text is a pattern if it is well formed, is not nested too deeply, and is either a
list of texts that needs no automaton or has automata that fit. What it matches depends
on none of these limits.

Nearly all patterns are far smaller than the limit, so an upper bound on the size, which
is a simple sum over the tree, is compared first, and states are counted only when the
bound is too large.
-/

namespace PlatformAudit.Pattern

open Text

/-! ### A bound on the size -/

/-- Upper bounds on a class: the number of its characters, that of the characters it lacks, and
that of the ranges it consists of. -/
structure Extent where
  members : Nat
  missing : Nat
  ranges : Nat

namespace Extent

/-- The bounds of a class of ranges. -/
def ofRanges (members ranges : Nat) : Extent :=
  { members, missing := maxCodePoint + 1, ranges }

/-- The bounds of a class with all that folds alike. At most four characters do, and folding
changes fewer than three thousand. -/
def folded (e : Extent) : Extent where
  members := 4 * e.members
  missing := e.missing
  ranges := min (min (4 * e.members) (e.missing + 1)) (e.ranges + 3000)

end Extent

/-- The bounds of a class. -/
def CharSet.extent : CharSet → Extent
  | .none => .ofRanges 0 0
  | .single _ => .ofRanges 1 1
  | .range lo hi => .ofRanges (hi.toNat - lo.toNat + 1) 1
  | .digit => .ofRanges 1000 decimalDigitRanges.length
  | .blank => .ofRanges 25 blankRanges.length
  | .word => .ofRanges (maxCodePoint + 1) wordRanges.length
  | .table rs => .ofRanges (maxCodePoint + 1) rs.length
  | .union a b =>
    let x := a.extent
    let y := b.extent
    { members := x.members + y.members, missing := min x.missing y.missing,
      ranges := x.ranges + y.ranges }
  | .inter a b =>
    let x := a.extent
    let y := b.extent
    { members := min x.members y.members, missing := x.missing + y.missing,
      ranges := x.ranges + y.ranges }
  | .complement a =>
    let x := a.extent
    { members := x.missing, missing := x.members, ranges := x.ranges + 1 }
  | .anyCase a | .anyLatinCase a => a.extent.folded

/-- A bound on the bytes of a class. A range of characters is at most 21 sequences of at most four
ranges of bytes. -/
def Extent.bytes (e : Extent) : Nat :=
  64 + 3500 * e.ranges

mutual

/-- A bound on the bytes of the automata of a tree. -/
def Tree.sizeBound : Tree → Nat
  | .empty | .flags | .boundary _ => 40
  | .symbol s _ => s.extent.bytes
  | .group _ body => body.sizeBound + 72
  | .concat parts => sizeBoundOfAll parts + 80
  | .choice branches => sizeBoundOfAll branches + 80
  | .repetition least greatest _ body =>
    (max (max least (greatest.getD 0)) 1 + 1) * (body.sizeBound + 160)

/-- A bound on the bytes of the automata of some trees. -/
def Tree.sizeBoundOfAll : List Tree → Nat
  | [] => 0
  | t :: ts => t.sizeBound + 16 + sizeBoundOfAll ts

end

/-- Whether a pattern is small enough. -/
def Tree.fits (t : Tree) : Bool :=
  t.sizeBound + 300 ≤ sizeLimit || t.shape.isLiteralSet || t.shape.isLongChoice || t.shape.fits

/-! ### Patterns -/

/-- Reads a text as a pattern. -/
def CharPattern.parse (text : String) : Option CharPattern := do
  let tree ← Tree.parse text
  if tree.depth ≤ depthLimit ∧ tree.fits then some tree.meaning else none

end PlatformAudit.Pattern
