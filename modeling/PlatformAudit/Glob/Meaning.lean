import PlatformAudit.Glob.Token
import PlatformAudit.Pattern.Expr

/-!
# What a glob matches

A glob denotes a pattern over the bytes of a path. Letters of the Latin alphabet
match without regard to case; every other character is just its bytes, so a class
that lists a character of several bytes matches any one of those bytes. An
alternative that is empty is left out, and a group of nothing else matches the
empty text. The whole path must match.
-/

namespace PlatformAudit.Glob

open Pattern

/-- A class of bytes. -/
inductive ByteSet where
  | any
  /-- One byte, without regard to case. -/
  | one (b : UInt8)
  /-- The bytes of some ranges, without regard to case, or all others. -/
  | ranges (negated : Bool) (rs : List (UInt8 × UInt8))

/-- The small letter of a Latin capital, and any other byte unchanged. -/
def lowerByte (b : UInt8) : UInt8 :=
  if 65 ≤ b ∧ b ≤ 90 then b + 32 else b

/-- The capital of a small Latin letter, and any other byte unchanged. -/
def upperByte (b : UInt8) : UInt8 :=
  if 97 ≤ b ∧ b ≤ 122 then b - 32 else b

/-- Whether a byte lies in one of the ranges. -/
def inRanges (rs : List (UInt8 × UInt8)) (b : UInt8) : Bool :=
  rs.any fun (lo, hi) => lo ≤ b && b ≤ hi

/-- Whether a class holds a byte. -/
def ByteSet.member : ByteSet → UInt8 → Bool
  | .any, _ => true
  | .one c, b => lowerByte b = lowerByte c
  | .ranges negated rs, b =>
    (inRanges rs b || inRanges rs (lowerByte b) || inRanges rs (upperByte b)) != negated

/-- A pattern over bytes. Globs have no conditions on positions. -/
abbrev BytePattern := Expr ByteSet Empty

/-- The meaning of classes of bytes. -/
def bytes : Reading ByteSet Empty UInt8 where
  member := ByteSet.member
  holds := nofun

/-- The bytes of a text. -/
def utf8 (cs : List Char) : List UInt8 :=
  cs.flatMap String.utf8EncodeChar

/-- The ranges of bytes of a range of characters: of the lower end's last byte and the upper end's
first one, the other bytes each for itself. -/
def byteRanges (range : Char × Char) : List (UInt8 × UInt8) :=
  let lo := String.utf8EncodeChar range.1
  let hi := String.utf8EncodeChar range.2
  let each (bs : List UInt8) := bs.map fun b => (b, b)
  if range.1 = range.2 then each lo
  else each lo.dropLast ++ (lo.getLastD 0, hi.headD 0) :: each hi.tail

/-- Any number of bytes. -/
def anything : BytePattern :=
  .star (.symbol .any)

/-- A separator. -/
def slash : BytePattern :=
  .symbol (.one 47)

mutual

/-- Whether a token has no text of its own. -/
def Token.isHollow : Token → Bool
  | .alternatives branches => allHollow branches
  | _ => false

/-- Whether all alternatives are without text. -/
def allHollow : List (List Token) → Bool
  | [] => true
  | ts :: branches => isHollowBranch ts && allHollow branches

/-- Whether an alternative is without text. -/
def isHollowBranch : List Token → Bool
  | [] => true
  | t :: ts => t.isHollow && isHollowBranch ts

end

mutual

/-- The pattern of a token. -/
def Token.pattern : Token → BytePattern
  | .literal c => Expr.sequence ((String.utf8EncodeChar c).map fun b => .symbol (.one b))
  | .any => .symbol .any
  | .many => anything
  | .leading => .either slash.maybe (.seq anything slash)
  | .trailing => .seq slash anything
  | .between => .either slash (.seq slash (.seq anything slash))
  | .bracket negated ranges => .symbol (.ranges negated (ranges.flatMap byteRanges))
  | .alternatives branches => Expr.choice (branchPatterns branches)

/-- The patterns of the alternatives that have text. -/
def branchPatterns : List (List Token) → List BytePattern
  | [] => []
  | ts :: branches =>
    if isHollowBranch ts then branchPatterns branches
    else tokensPattern ts :: branchPatterns branches

/-- The pattern of a sequence of tokens. -/
def tokensPattern : List Token → BytePattern
  | [] => .empty
  | t :: ts => .seq t.pattern (tokensPattern ts)

end

/-- The pattern of a glob. One that is nothing but any number of components matches every path. -/
def meaning : List Token → BytePattern
  | [.leading] => anything
  | ts => tokensPattern ts

/-- Whether a path matches a pattern of bytes as a whole. -/
def BytePattern.matchesPath (p : BytePattern) (path : List Char) : Bool :=
  p.covers bytes (utf8 path)

/-- Reads a glob and gives its pattern. -/
def compile (cs : List Char) : Except Error BytePattern :=
  meaning <$> parse cs

end PlatformAudit.Glob
