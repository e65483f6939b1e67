import PlatformAudit.Pattern.Positions

/-!
# Pattern expressions and the positions they reach

A pattern is an expression over classes of symbols and conditions on positions.
Whether a text has a match is decided without backtracking: an expression sends
the set of positions where a match may begin to the set of positions where such a
match may end. Sequence is then composition, choice is union, and repetition is
repeated application.

The text enters only through its classes and conditions, each of which is a set of
positions of its own: those before a symbol of the class, and those at which the
condition holds. An expression is first **placed** on the text, which replaces
every class and condition by its set, and the rest is arithmetic on sets.

Which of several matches is found first never matters here, so a lazy repetition
is the same expression as a greedy one.
-/

namespace PlatformAudit.Pattern

/-- A pattern over classes `σ` of symbols and conditions `β` on positions. -/
inductive Expr (σ β : Type) where
  /-- The empty text. -/
  | empty
  /-- One symbol of a class. -/
  | symbol (s : σ)
  /-- The empty text at a position that satisfies a condition. -/
  | boundary (b : β)
  | seq (first second : Expr σ β)
  | either (left right : Expr σ β)
  /-- At least `least` matches one after the other, and at most `greatest`, if that is given. -/
  | many (least : Nat) (greatest : Option Nat) (body : Expr σ β)
  deriving DecidableEq

/-- What classes and conditions mean for symbols of type `α`. A condition sees the symbol before
the position and the symbol after it. -/
structure Reading (σ β α : Type) where
  member : σ → α → Bool
  holds : β → Option α → Option α → Bool

namespace Expr

variable {σ β α : Type}

/-! ### Matching -/

/-- An expression with the sets of positions that its classes and conditions are in a text. -/
def place (reading : Reading σ β α) (text : List α) : Expr σ β → Expr Positions Positions
  | .empty => .empty
  | .symbol c => .symbol (Positions.ahead (reading.member c) text)
  | .boundary b => .boundary (Positions.between (reading.holds b) none text)
  | .seq first second => .seq (place reading text first) (place reading text second)
  | .either left right => .either (place reading text left) (place reading text right)
  | .many least greatest body => .many least greatest (place reading text body)

/-- The positions at which a match may end that begins at a position of the set, in a text of
this length. -/
def advance (length : Nat) : Expr Positions Positions → Positions → Positions
  | .empty, s => s
  | .symbol marked, s => Positions.step marked s
  | .boundary places, s => s &&& places
  | .seq first second, s => advance length second (advance length first s)
  | .either left right, s => advance length left s ||| advance length right s
  | .many least greatest body, s =>
    Positions.repeated (fun t => advance length body t) length least greatest s

/-- The positions at which a match may end that begins at a position of the set. -/
def reach (reading : Reading σ β α) (text : List α) (e : Expr σ β) (s : Positions) : Positions :=
  advance text.length (e.place reading text) s

/-- Whether a match stands anywhere in the text. -/
def occurs (reading : Reading σ β α) (text : List α) (e : Expr σ β) : Bool :=
  e.reach reading text (Positions.all text.length) ≠ 0

/-- Whether the whole text is a match. -/
def covers (reading : Reading σ β α) (text : List α) (e : Expr σ β) : Bool :=
  (e.reach reading text 1).testBit text.length

/-! ### Building expressions -/

/-- Any number of matches. -/
def star (e : Expr σ β) : Expr σ β :=
  .many 0 none e

/-- A match or nothing. -/
def maybe (e : Expr σ β) : Expr σ β :=
  .many 0 (some 1) e

/-- Matches of all the expressions, one after the other. -/
def sequence : List (Expr σ β) → Expr σ β
  | [] => .empty
  | [e] => e
  | e :: es => .seq e (sequence es)

/-- A match of one of the expressions; the empty text if there is none. -/
def choice : List (Expr σ β) → Expr σ β
  | [] => .empty
  | [e] => e
  | e :: es => .either e (choice es)

end Expr

end PlatformAudit.Pattern
