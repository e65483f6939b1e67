import PlatformAudit.Decimal.Shortest

/-!
# Numbers in a document

A numeral is a number as a document writes it: a sign, whole digits, and perhaps
a fraction and an exponent. Its value is decided in two ways.

* Without fraction and exponent it is an integer, as long as it fits 64 bits.
* Otherwise it is a double-precision number. Its digits are gathered into a
  64-bit significand, digits that no longer fit only raise the exponent or are
  dropped, and the significand is scaled by **one** floating-point multiplication
  or division by a power of ten. So the value may be off by a unit in the last
  place from the nearest double; that is the reading that this library defines.

A number that scales beyond the greatest double has no value.
-/

namespace PlatformAudit.Json

open Decimal

/-- The exponent of a numeral: a sign and digits. -/
structure Exponent where
  negative : Bool
  digits : List Digit

/-- A number as it is written. -/
structure Numeral where
  negative : Bool
  whole : List Digit
  fraction : List Digit
  exponent : Option Exponent

/-- What a numeral stands for. -/
inductive Number where
  /-- A non-negative integer below `2 ^ 64`. -/
  | natural (n : Nat)
  /-- The negative integer `-n`, from `-2 ^ 63` on. -/
  | negative (n : Nat)
  /-- Any other number, in double precision. -/
  | real (x : Float)

/-! ### Scaling -/

/-- The greatest significand that is gathered. -/
def maxSignificand : Nat := UInt64.size - 1

/-- Gathers digits into a significand while it fits, and gives the digits that did not. -/
def gather (significand : Nat) : List Digit → Nat × List Digit
  | [] => (significand, [])
  | d :: ds =>
    let next := 10 * significand + d.val
    if next ≤ maxSignificand then gather next ds else (significand, d :: ds)

/-- A power of ten in double precision. -/
def powerOfTen (n : Nat) : Float :=
  Float.ofScientific 1 false n

/-- Scales by a power of ten, in steps of at most 308 decimal places. Three steps take every
significand to zero, so `fuel` need not exceed four. -/
def scaleBy : (fuel : Nat) → Float → Int → Option Float
  | 0, _, _ => some 0
  | fuel + 1, x, power =>
    if power.natAbs ≤ 308 then
      if power < 0 then some (x / powerOfTen power.natAbs)
      else
        let y := x * powerOfTen power.natAbs
        if y.isInf then none else some y
    else if x == 0 then some x
    else if power < 0 then scaleBy fuel (x / powerOfTen 308) (power + 308)
    else none

/-- The double `significand * 10 ^ power` with a sign, or nothing if it is too large. -/
def scaled (negative : Bool) (significand : Nat) (power : Int) : Option Float :=
  (scaleBy 4 significand.toUInt64.toFloat power).map fun x => if negative then -x else x

namespace Numeral

/-- The value of a numeral as a double. -/
def real? (n : Numeral) : Option Float :=
  let (significand, spilt) := gather 0 n.whole
  let (significand, dropped) := gather significand n.fraction
  let power : Int := spilt.length - (n.fraction.length - dropped.length : Nat)
  match n.exponent with
  | none => scaled n.negative significand power
  | some e =>
    let size : Int := ofDigits e.digits
    scaled n.negative significand (if e.negative then power - size else power + size)

/-- What a numeral stands for, or nothing if it is out of range. -/
def value? (n : Numeral) : Option Number :=
  let size := ofDigits n.whole
  match n.fraction, n.exponent with
  | [], none =>
    if n.negative then
      if 0 < size ∧ size ≤ Nat.pow 2 63 then some (.negative size) else n.real?.map .real
    else if size ≤ maxSignificand then some (.natural size) else n.real?.map .real
  | _, _ => n.real?.map .real

/-- A natural number as a numeral. -/
def ofNat (n : Nat) : Numeral :=
  { negative := false, whole := digits n, fraction := [], exponent := none }

/-! ### Writing doubles -/

/-- Lays out a decimal: positionally if its leading digit stands between the fifth place after
the point and the sixteenth before it, otherwise with one digit before the point and an
exponent. A positional number has at least one digit after the point. -/
def layout (negative : Bool) (x : Scaled) : Numeral :=
  let ds := digits x.significand
  let lead : Int := x.power + (ds.length - 1 : Nat)
  if 0 ≤ lead ∧ lead < 16 then
    let before := lead.toNat + 1
    let fraction := ds.drop before
    { negative
      whole := ds.take before ++ List.replicate (before - ds.length) Digit.zero
      fraction := if fraction.isEmpty then [Digit.zero] else fraction
      exponent := none }
  else if -5 ≤ lead ∧ lead < 0 then
    { negative
      whole := [Digit.zero]
      fraction := List.replicate (-lead - 1).toNat Digit.zero ++ ds
      exponent := none }
  else
    { negative
      whole := ds.take 1
      fraction := ds.drop 1
      exponent := some ⟨lead < 0, digits lead.natAbs⟩ }

/-- A finite double as a numeral, with the fewest digits that identify it. -/
def ofFloat (x : Float) : Numeral :=
  let bits := x.toBits
  let negative := bits >>> 63 = 1
  if bits &&& 0x7FFFFFFFFFFFFFFF = 0 then
    { negative, whole := [Digit.zero], fraction := [Digit.zero], exponent := none }
  else layout negative (shortestOfBits bits)

/-! ### Text -/

/-- An exponent as it is written, with its sign. -/
def exponentText (e : Exponent) : List Char :=
  'e' :: (if e.negative then '-' else '+') :: e.digits.map Digit.char

/-- A numeral as it is written. -/
def text (n : Numeral) : List Char :=
  (if n.negative then ['-'] else []) ++ n.whole.map Digit.char ++
    (if n.fraction.isEmpty then [] else '.' :: n.fraction.map Digit.char) ++
    (n.exponent.map exponentText).getD []

end Numeral

end PlatformAudit.Json
