import PlatformAudit.Pattern.Expr
import PlatformAudit.Text.Ascii
import PlatformAudit.Text.Blank
import PlatformAudit.Text.CaseFold
import PlatformAudit.Text.Word

/-!
# Classes of characters and conditions on positions

A class is kept as it is written, as unions and complements of single characters,
ranges and named classes, and a character is looked up in it. A class without
regard to case holds a character when it holds any character that folds alike.
-/

namespace PlatformAudit.Pattern

open Text

/-- A class of characters. -/
inductive CharSet where
  | none
  | single (c : Char)
  | range (lo hi : Char)
  /-- Decimal digits of any script. -/
  | digit
  /-- White space. -/
  | blank
  /-- Word characters of any script. -/
  | word
  /-- The characters of a table. -/
  | table (ranges : CodeRanges)
  | union (a b : CharSet)
  | inter (a b : CharSet)
  | complement (a : CharSet)
  /-- The class without regard to case. -/
  | anyCase (a : CharSet)
  /-- The class without regard to the case of Latin letters. -/
  | anyLatinCase (a : CharSet)
  deriving DecidableEq

namespace CharSet

/-- Whether a class holds a character. -/
def member : CharSet → Char → Bool
  | .none, _ => false
  | .single d, c => c = d
  | .range lo hi, c => lo ≤ c && c ≤ hi
  | .digit, c => isDecimalDigit c
  | .blank, c => isBlank c
  | .word, c => isWordChar c
  | .table ranges, c => ranges.covers c.toNat
  | .union a b, c => a.member c || b.member c
  | .inter a b, c => a.member c && b.member c
  | .complement a, c => !a.member c
  | .anyCase a, c => (caseOrbit c).any fun d => a.member d
  | .anyLatinCase a, c => a.member (asciiLower c) || a.member (asciiUpper c)

/-- The characters of the first class that are not in the second. -/
def without (a b : CharSet) : CharSet :=
  .inter a (.complement b)

/-- The characters of exactly one of two classes. -/
def exclusive (a b : CharSet) : CharSet :=
  .union (a.without b) (b.without a)

/-- Every character. -/
def all : CharSet :=
  .complement .none

end CharSet

/-- What a condition asks of the word characters next to a position. -/
inductive WordEdge where
  /-- A word character on one side and none on the other. -/
  | edge
  /-- Word characters on both sides, or on neither. -/
  | noEdge
  /-- A word character after the position and none before it. -/
  | start
  /-- A word character before the position and none after it. -/
  | stop
  /-- No word character before the position. -/
  | startHalf
  /-- No word character after the position. -/
  | stopHalf
  deriving DecidableEq

/-- Whether the sides of a position are as asked, given whether they are word characters. -/
def WordEdge.holds : WordEdge → (before after : Bool) → Bool
  | .edge, before, after => before != after
  | .noEdge, before, after => before == after
  | .start, before, after => !before && after
  | .stop, before, after => before && !after
  | .startHalf, before, _ => !before
  | .stopHalf, _, after => !after

/-- A condition on a position in a text. -/
inductive Boundary where
  | textStart
  | textEnd
  | lineStart
  | lineEnd
  /-- The start of a line, where a carriage return ends a line too, and ends it together with a
  line feed that follows. -/
  | returnLineStart
  /-- The end of a line, where a carriage return ends a line too. -/
  | returnLineEnd
  /-- A condition on word characters of any script. -/
  | word (e : WordEdge)
  /-- A condition on plain Latin letters, digits and the low line. -/
  | latinWord (e : WordEdge)
  deriving DecidableEq

/-- A plain Latin letter, a digit or the low line. -/
def isLatinWordChar (c : Char) : Bool :=
  c.isAlphanum || c = '_'

namespace Boundary

/-- Whether a position satisfies a condition, given its neighbours. -/
def holds : Boundary → Option Char → Option Char → Bool
  | .textStart, before, _ => before.isNone
  | .textEnd, _, after => after.isNone
  | .lineStart, before, _ => before.isNone || before = some '\n'
  | .lineEnd, _, after => after.isNone || after = some '\n'
  | .returnLineStart, before, after =>
    before.isNone || before = some '\n' || (before = some '\r' && after ≠ some '\n')
  | .returnLineEnd, before, after =>
    after.isNone || after = some '\r' || (after = some '\n' && before ≠ some '\r')
  | .word e, before, after => e.holds (before.any isWordChar) (after.any isWordChar)
  | .latinWord e, before, after =>
    e.holds (before.any isLatinWordChar) (after.any isLatinWordChar)

end Boundary

/-- A pattern over characters. -/
abbrev CharPattern := Expr CharSet Boundary

/-- The meaning of classes and conditions for characters. -/
def characters : Reading CharSet Boundary Char where
  member := CharSet.member
  holds := Boundary.holds

/-- Whether a match of the pattern stands anywhere in a text. -/
def CharPattern.foundIn (p : CharPattern) (text : String) : Bool :=
  Expr.occurs characters text.toList p

end PlatformAudit.Pattern
