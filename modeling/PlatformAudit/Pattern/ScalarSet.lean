import PlatformAudit.Pattern.CharSet

/-!
# Classes as ranges of scalar values

The automaton of a pattern is built from the ranges of its classes. Code points of
surrogates belong to no character, so the characters on both sides of them are
neighbours: a class is a list of ranges of **ranks**, where the rank of a character is
the number of characters before it.
-/

namespace PlatformAudit.Pattern

open Text

/-- The number of characters before a character, given its code point. -/
def rank (code : Nat) : Nat :=
  if code < 0xD800 then code else code - 0x800

/-- The code point of the character with a rank. -/
def codeOfRank (r : Nat) : Nat :=
  if r < 0xD800 then r else r + 0x800

/-- The rank of the last character. -/
def maxRank : Nat := rank maxCodePoint

/-- The ranges of ranks of a table. -/
def ranksOf (rs : CodeRanges) : CodeRanges :=
  .ofPairs (rs.map fun (lo, hi) => (rank lo, rank hi))

/-- The ranks that case folding changes, each with the rank that it becomes. -/
def foldedRanks : List (Nat × Nat) :=
  foldRuns.flatMap fun run =>
    (List.range ((run.last - run.first) / run.stride + 1)).map fun k =>
      let n := run.first + run.stride * k
      (rank n, rank ((n : Int) + run.offset).toNat)

/-- The ranks of the Latin capitals, each with that of its small letter. -/
def latinRanks : List (Nat × Nat) :=
  (List.range 26).map fun k => (65 + k, 97 + k)

/-- The class with all that folds alike, given the ranks that folding changes. -/
def closedUnder (folded : List (Nat × Nat)) (rs : CodeRanges) : CodeRanges :=
  let images := folded.filterMap fun (n, image) =>
    if rs.covers n then some (image, image) else none
  let withImages := CodeRanges.ofPairs (rs ++ images)
  let sources := folded.filterMap fun (n, image) =>
    if withImages.covers image then some (n, n) else none
  .ofPairs (withImages ++ sources)

/-- The ranges of ranks of a class. -/
def CharSet.ranks : CharSet → CodeRanges
  | .none => []
  | .single c => [(rank c.toNat, rank c.toNat)]
  | .range lo hi => [(rank lo.toNat, rank hi.toNat)]
  | .digit => ranksOf decimalDigitRanges
  | .blank => ranksOf blankRanges
  | .word => ranksOf wordRanges
  | .table rs => ranksOf rs
  | .union a b => .union a.ranks b.ranks
  | .inter a b => .inter maxRank a.ranks b.ranks
  | .complement a => .complement maxRank a.ranks
  | .anyCase a => closedUnder foldedRanks a.ranks
  | .anyLatinCase a => closedUnder latinRanks a.ranks

/-! ### Bytes -/

/-- A range of values of one byte. -/
abbrev ByteRange := Nat × Nat

/-- The least code point that needs more bytes than this one, for all but the longest. -/
def lengthEnd? (code : Nat) : Option Nat :=
  [0x80, 0x800, 0x10000].find? (code < ·)

/-- The end of the first block of six, twelve or eighteen bits in which a range of several such
blocks begins or before which it ends in the middle of one. -/
def blockCut? (lo hi : Nat) : Option Nat :=
  [0x40, 0x1000, 0x40000].findSome? fun block =>
    if lo / block = hi / block then none
    else if lo % block ≠ 0 then some (lo / block * block + block - 1)
    else if hi % block ≠ block - 1 then some (hi / block * block - 1)
    else none

/-- Where a range of code points has to be cut so that its bytes vary independently: the last code
point of the first part. Such a range has one length, and where a byte varies all later bytes take
all their values. -/
def cut? (lo hi : Nat) : Option Nat :=
  match lengthEnd? lo with
  | some top =>
    if top ≤ hi then some (top - 1) else if hi < 0x80 then none else blockCut? lo hi
  | none => blockCut? lo hi

/-- The parts of a range of code points in which bytes vary independently. -/
def independentParts : (fuel lo hi : Nat) → List (Nat × Nat)
  | 0, _, _ => []
  | fuel + 1, lo, hi =>
    if hi < lo then []
    else
      match cut? lo hi with
      | some m => independentParts fuel lo m ++ independentParts fuel (m + 1) hi
      | none => [(lo, hi)]

/-- The bytes of a code point. -/
def bytesOf (code : Nat) : List Nat :=
  (String.utf8EncodeChar (Char.ofNat code)).map UInt8.toNat

/-- A class as sequences of ranges of bytes, in ascending order. A range of ranks that goes across
the surrogates is two ranges of code points. -/
def byteSequences (rs : CodeRanges) : List (List ByteRange) :=
  rs.flatMap fun (lo, hi) =>
    let parts := if lo < 0xD800 ∧ 0xD800 ≤ hi then [(lo, 0xD7FF), (0xD800, hi)] else [(lo, hi)]
    parts.flatMap fun (lo, hi) =>
      (independentParts 64 (codeOfRank lo) (codeOfRank hi)).map fun (a, b) =>
        (bytesOf a).zip (bytesOf b)

end PlatformAudit.Pattern
