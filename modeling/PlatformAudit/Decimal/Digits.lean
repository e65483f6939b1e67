/-!
# Decimal digits

A natural number as the list of its digits, most significant first, and back.
-/

namespace PlatformAudit.Decimal

/-- A decimal digit. -/
abbrev Digit := Fin 10

/-- The digit zero. -/
def Digit.zero : Digit := 0

/-- The character of a digit. -/
def Digit.char (d : Digit) : Char :=
  Char.ofNat (48 + d.val)

/-- The digit that a character stands for. -/
def Digit.ofChar? (c : Char) : Option Digit :=
  if '0' ≤ c ∧ c ≤ '9' then some (Fin.ofNat 10 (c.toNat - 48)) else none

/-- The digits at the start of a text, and what follows them. -/
def takeDigits : List Char → List Digit × List Char
  | [] => ([], [])
  | c :: cs =>
    match Digit.ofChar? c with
    | some d => let (ds, rest) := takeDigits cs; (d :: ds, rest)
    | none => ([], c :: cs)

/-- Puts the digits of `n` before `tail`; `fuel` bounds their number. -/
def digitsOnto (tail : List Digit) : (fuel n : Nat) → List Digit
  | 0, _ => tail
  | fuel + 1, n =>
    let tail := Fin.ofNat 10 n :: tail
    if n < 10 then tail else digitsOnto tail fuel (n / 10)

/-- The digits of a number; zero has one. -/
def digits (n : Nat) : List Digit :=
  digitsOnto [] (n + 1) n

/-- The number that a list of digits stands for. -/
def ofDigits (ds : List Digit) : Nat :=
  ds.foldl (fun n d => 10 * n + d.val) 0

/-- A number in decimal notation. -/
def text (n : Nat) : List Char :=
  (digits n).map Digit.char

/-- The last `width` digits of a number, with leading zeros. -/
def padded (width n : Nat) : List Char :=
  (List.range width).reverse.map fun k => Digit.char (Fin.ofNat 10 (n / Nat.pow 10 k))

end PlatformAudit.Decimal
