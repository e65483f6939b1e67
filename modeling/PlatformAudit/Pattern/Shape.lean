import PlatformAudit.Pattern.ScalarSet
import PlatformAudit.Pattern.Tree
import PlatformAudit.Text.Segment

/-!
# The shape of a pattern

Before its automaton is built a pattern is simplified. Literals that follow each other
become one, sequences and choices are flattened, a choice between single characters
or between classes becomes a class, and parts that all alternatives of a choice begin
with are taken out of it. A repetition of what can only match the empty text is made
once at most, a repetition that is made exactly once is its body, and one that is made
never is empty.

The functions with the names of a constructor build such simplified shapes from
simplified ones.
-/

namespace PlatformAudit.Pattern

open Text

/-- A simplified pattern. -/
inductive Shape where
  | empty
  /-- A non-empty text. -/
  | literal (cs : List Char)
  /-- A character of a class, given by its ranges of ranks: two characters or more, or none. -/
  | oneOf (ranks : CodeRanges)
  | boundary (b : Boundary)
  | capture (body : Shape)
  | concat (parts : List Shape)
  | choice (branches : List Shape)
  | repetition (least : Nat) (greatest : Option Nat) (greedy : Bool) (body : Shape)

namespace Shape

/-! ### Lengths -/

/-- The number of bytes of the character with a rank. -/
def rankLength (r : Nat) : Nat :=
  (Char.ofNat (codeOfRank r)).utf8Size

mutual

/-- The least number of bytes of a match; nothing if a class that has to be matched is empty. -/
def minLength : Shape → Option Nat
  | .empty | .boundary _ => some 0
  | .literal cs => some (byteLength cs)
  | .oneOf ranks => ranks.head?.map fun (lo, _) => rankLength lo
  | .capture body => body.minLength
  | .concat parts => sumOfMins parts
  | .choice branches => leastOfMins branches
  | .repetition least _ _ body => body.minLength.map (· * least)

/-- The sum of the least lengths. -/
def sumOfMins : List Shape → Option Nat
  | [] => some 0
  | p :: ps => do return (← p.minLength) + (← sumOfMins ps)

/-- The least of the least lengths. -/
def leastOfMins : List Shape → Option Nat
  | [] => none
  | [p] => p.minLength
  | p :: ps => do return min (← p.minLength) (← leastOfMins ps)

end

mutual

/-- The greatest number of bytes of a match; nothing if there is none, or if a class is empty. -/
def maxLength : Shape → Option Nat
  | .empty | .boundary _ => some 0
  | .literal cs => some (byteLength cs)
  | .oneOf ranks => ranks.getLast?.map fun (_, hi) => rankLength hi
  | .capture body => body.maxLength
  | .concat parts => sumOfMaxs parts
  | .choice branches => greatestOfMaxs branches
  | .repetition _ greatest _ body => do return (← body.maxLength) * (← greatest)

/-- The sum of the greatest lengths. -/
def sumOfMaxs : List Shape → Option Nat
  | [] => some 0
  | p :: ps => do return (← p.maxLength) + (← sumOfMaxs ps)

/-- The greatest of the greatest lengths. -/
def greatestOfMaxs : List Shape → Option Nat
  | [] => none
  | [p] => p.maxLength
  | p :: ps => do return max (← p.maxLength) (← greatestOfMaxs ps)

end

/-- Whether every match is empty. -/
def isWidthless (s : Shape) : Bool :=
  s.maxLength = some 0

/-! ### Equality -/

mutual

/-- Whether two shapes are the same. A group that captures is the same as no other group. -/
def same : Shape → Shape → Bool
  | .empty, .empty => true
  | .literal cs, .literal ds => cs = ds
  | .oneOf rs, .oneOf ts => rs = ts
  | .boundary a, .boundary b => a = b
  | .concat ps, .concat qs => sameAll ps qs
  | .choice ps, .choice qs => sameAll ps qs
  | .repetition m n g p, .repetition m' n' g' q => m = m' && n = n' && g = g' && p.same q
  | _, _ => false

/-- Whether two lists of shapes are the same. -/
def sameAll : List Shape → List Shape → Bool
  | [], [] => true
  | p :: ps, q :: qs => p.same q && sameAll ps qs
  | _, _ => false

end

/-! ### Building shapes -/

/-- A character of a class. -/
def ofRanks : CodeRanges → Shape
  | [(lo, hi)] => if lo = hi then .literal [Char.ofNat (codeOfRank lo)] else .oneOf [(lo, hi)]
  | ranks => .oneOf ranks

/-- A repetition. -/
def times (least : Nat) (greatest : Option Nat) (greedy : Bool) (body : Shape) : Shape :=
  let (least, greatest) :=
    if body.isWidthless then (min least 1, some ((greatest.map (min · 1)).getD 1))
    else (least, greatest)
  if greatest = some 0 then .empty
  else if least = 1 ∧ greatest = some 1 then body
  else .repetition least greatest greedy body

/-- The parts of a sequence, without those that are empty. -/
def partsOf : Shape → List Shape
  | .empty => []
  | .concat parts => parts
  | s => [s]

/-- Puts a part before others, joined to the first of them if both are literals. -/
def joinLiteral : Shape → List Shape → List Shape
  | .literal cs, .literal ds :: rest => .literal (cs ++ ds) :: rest
  | s, rest => s :: rest

/-- Shapes one after the other. -/
def inSequence (shapes : List Shape) : Shape :=
  match (shapes.flatMap partsOf).foldr joinLiteral [] with
  | [] => .empty
  | [s] => s
  | parts => .concat parts

/-- The alternatives of a choice. -/
def branchesOf : Shape → List Shape
  | .choice branches => branches
  | s => [s]

/-- The rank of a literal of one character. -/
def singleRank? : Shape → Option Nat
  | .literal [c] => some (rank c.toNat)
  | _ => none

/-- The ranges of a class. -/
def classRanks? : Shape → Option CodeRanges
  | .oneOf ranks => some ranks
  | _ => none

/-- The parts of a sequence of two or more. -/
def sequenceParts? : Shape → Option (List Shape)
  | .concat parts => some parts
  | _ => none

/-- The parts with which both of two lists begin. -/
def commonStart : List Shape → List Shape → List Shape
  | p :: ps, q :: qs => if p.same q then p :: commonStart ps qs else []
  | _, _ => []

/-- The parts with which all of some lists begin. -/
def sharedStart : List (List Shape) → List Shape
  | [] => []
  | first :: rest => rest.foldl commonStart first

/-- One of some shapes; `fuel` bounds how often shared parts are taken out. -/
def oneOfAll : (fuel : Nat) → List Shape → Shape
  | 0, shapes => .choice shapes
  | fuel + 1, shapes =>
    match shapes.flatMap branchesOf with
    | [s] => s
    | branches =>
      match branches.mapM singleRank?, branches.mapM classRanks?, branches.mapM sequenceParts? with
      | some ranks, _, _ => ofRanks (.ofPairs (ranks.map fun r => (r, r)))
      | none, some classes, _ => ofRanks (.ofPairs classes.flatten)
      | none, none, some lists =>
        let start := sharedStart lists
        if start.isEmpty then .choice branches
        else
          let rests := lists.map fun parts => inSequence (parts.drop start.length)
          inSequence (start ++ [oneOfAll fuel rests])
      | none, none, none => .choice branches

end Shape

mutual

/-- The simplified form of a pattern. -/
def Tree.shape : Tree → Shape
  | .empty | .flags => .empty
  | .symbol s _ => .ofRanks s.ranks
  | .boundary b => .boundary b
  | .group captures body => if captures then .capture body.shape else body.shape
  | .concat parts => .inSequence (shapes parts)
  | .choice branches => .oneOfAll (branches.length + 1) (shapes branches)
  | .repetition least greatest greedy body => .times least greatest greedy body.shape

/-- The simplified forms of some patterns. -/
def Tree.shapes : List Tree → List Shape
  | [] => []
  | t :: ts => t.shape :: Tree.shapes ts

end

end PlatformAudit.Pattern
