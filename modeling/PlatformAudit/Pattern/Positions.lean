/-!
# Sets of positions

A text of `n` symbols has the positions `0` to `n`: before the first symbol,
between two symbols, after the last one. A set of positions is a natural number,
position `i` being in the set when bit `i` is set. Union, intersection and the
step over one symbol are then single operations on numbers, however long the text
is.

A repetition applies a function on sets again and again. Every function that is
repeated here sends a position only to itself and to later ones, so a set can grow
at most as often as there are positions, and more rounds than that change nothing.
-/

namespace PlatformAudit.Pattern

/-- A set of positions as the bits of a number. -/
abbrev Positions := Nat

namespace Positions

variable {α : Type}

/-- All positions of a text of this length. -/
def all (length : Nat) : Positions :=
  Nat.pow 2 (length + 1) - 1

/-- The positions right before a symbol that satisfies `p`. -/
def ahead (p : α → Bool) : List α → Positions
  | [] => 0
  | a :: as => (if p a then 1 else 0) + 2 * ahead p as

/-- The positions whose two neighbours satisfy `p`; `left` is the symbol before the text. -/
def between (p : Option α → Option α → Bool) (left : Option α) : List α → Positions
  | [] => if p left none then 1 else 0
  | a :: as => (if p left (some a) then 1 else 0) + 2 * between p (some a) as

/-- The positions after one symbol, for those positions of the set that are before a marked
symbol. -/
def step (marked s : Positions) : Positions :=
  2 * (s &&& marked)

/-- What `n` rounds lead to. A round that changes nothing is the last one that has to be made. -/
def rounds (f : Positions → Positions) : (n : Nat) → Positions → Positions
  | 0, s => s
  | n + 1, s =>
    let t := f s
    if t = s then s else rounds f n t

/-- The set and all that at most `n` rounds lead to. -/
def within (f : Positions → Positions) : (n : Nat) → Positions → Positions
  | 0, s => s
  | n + 1, s =>
    let t := s ||| f s
    if t = s then s else within f n t

/-- The set and all that any number of rounds leads to, and beside it what one more round makes
of that. -/
def orbit (f : Positions → Positions) : (fuel : Nat) → Positions → Positions × Positions
  | 0, s => (s, f s)
  | fuel + 1, s =>
    let t := f s
    if s ||| t = s then (s, t) else orbit f fuel (s ||| t)

/-- What at least `least` and at most `greatest` rounds lead to, in a text of this length. -/
def repeated (f : Positions → Positions) (length least : Nat) (greatest : Option Nat)
    (s : Positions) : Positions :=
  let enough := length + 1
  match greatest with
  | some g => rounds f (min least enough) (within f (min (g - least) enough) s)
  | none =>
    let (reached, onward) := orbit f enough s
    match least with
    | 0 => reached
    | n + 1 => rounds f (min n enough) onward

end Positions

end PlatformAudit.Pattern
