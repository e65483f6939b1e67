import PlatformAudit.Decimal.Digits

/-!
# The fewest digits that identify a binary number

A double-precision number is written with as few decimal digits as tell it from
every other such number, and among those with the digits nearest to it. The
search is the specification run as a loop: for one digit, two digits, and so on,
the value's two neighbours with that many digits are tried, and the first that
lies among the reals that round to the value wins.

All comparisons are made between natural numbers. A binary fraction
`m * 2 ^ (-k)` is the decimal fraction `m * 5 ^ k * 10 ^ (-k)`, so after scaling
by one power of ten the value, the ends of its interval and the candidates are
all whole.
-/

namespace PlatformAudit.Decimal

/-- A positive decimal `significand * 10 ^ power`. -/
structure Scaled where
  significand : Nat
  power : Int

/-- A value with the interval of reals that round to it, all in units of `10 ^ power`. -/
structure Interval where
  low : Nat
  value : Nat
  high : Nat
  /-- The ends themselves round to the value. -/
  closed : Bool
  power : Int

namespace Interval

/-- The interval of the finite, non-zero value with these bits, its sign aside.

Quarters of the last place are the unit in which the halfway points are whole.
Below a power of two the neighbour is only half as far away. -/
def ofBits (bits : UInt64) : Interval :=
  let biased := ((bits >>> 52) &&& 0x7FF).toNat
  let low52 := (bits &&& 0xFFFFFFFFFFFFF).toNat
  let mantissa := if biased = 0 then low52 else 0x10000000000000 + low52
  let exponent : Int := (if biased = 0 then 1 else biased : Nat) - 1077
  let unit := if exponent < 0 then Nat.pow 5 (-exponent).toNat else Nat.pow 2 exponent.toNat
  let below := if low52 = 0 ∧ biased > 1 then 1 else 2
  { low := (4 * mantissa - below) * unit
    value := 4 * mantissa * unit
    high := (4 * mantissa + 2) * unit
    closed := mantissa % 2 = 0
    power := if exponent < 0 then exponent else 0 }

/-- Whether a decimal in the interval's unit rounds to its value. -/
def admits (x : Interval) (n : Nat) : Bool :=
  if x.closed then x.low ≤ n && n ≤ x.high else x.low < n && n < x.high

/-- The nearer of the value's two neighbours on the grid of multiples of `10 ^ places` that
rounds to the value; of two equally near ones the even one. -/
def onGrid? (x : Interval) (places : Nat) : Option Scaled :=
  let grid := Nat.pow 10 places
  let below := x.value / grid
  let above := below + 1
  let pick n : Scaled := ⟨n, x.power + places⟩
  match x.admits (below * grid), x.admits (above * grid) with
  | true, true =>
    let twice := 2 * x.value
    let middle := (below + above) * grid
    if twice < middle ∨ (twice = middle ∧ below % 2 = 0) then some (pick below)
    else some (pick above)
  | true, false => some (pick below)
  | false, true => some (pick above)
  | false, false => none

/-- The fewest digits that read back as the value. -/
def shortest (x : Interval) : Scaled :=
  let places := (digits x.value).length
  let grids := (List.range 17).map fun n => places - (n + 1)
  (grids.findSome? x.onGrid?).getD ⟨x.value, x.power⟩

end Interval

/-- Moves trailing zeros of the significand into the power; `fuel` bounds their number. -/
def Scaled.strip : (fuel : Nat) → Scaled → Scaled
  | 0, x => x
  | fuel + 1, x =>
    if x.significand ≠ 0 ∧ x.significand % 10 = 0 then
      strip fuel ⟨x.significand / 10, x.power + 1⟩
    else x

/-- The shortest decimal of the finite, non-zero value with these bits, its sign aside. -/
def shortestOfBits (bits : UInt64) : Scaled :=
  (Interval.ofBits bits).shortest.strip 20

end PlatformAudit.Decimal
