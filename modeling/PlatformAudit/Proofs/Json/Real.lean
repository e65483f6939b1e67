import PlatformAudit.Proofs.Json.Codec

/-!
# Doubles as they are written

A double is written with the fewest digits that identify it, and these digits begin
with a zero only in front of the point. That rests on the interval of reals that round
to the double: its lower end is positive (`PlatformAudit.Decimal.Interval.low_ofBits_pos`),
so zero is never the decimal that is chosen from it
(`PlatformAudit.Decimal.significand_shortestOfBits_pos`). So the numeral of every double
is one that is read back from its text (`PlatformAudit.Json.Numeral.written_ofFloat`).
Whether it stands for the same double is another question, on which nothing is said here.
-/

namespace PlatformAudit

open Decimal

namespace Decimal

/-! ### The digits of a double are not all zero -/

/-- A double whose exponent and fraction have no bit set has none set but its sign. -/
theorem magnitude_eq_zero {bits : UInt64} (hbiased : ((bits >>> 52) &&& 0x7FF).toNat = 0)
    (hlow : (bits &&& 0xFFFFFFFFFFFFF).toNat = 0) : bits &&& 0x7FFFFFFFFFFFFFFF = 0 := by
  have hbiased' : bits.toNat / 2 ^ 52 % 2 ^ 11 = 0 := by
    rw [UInt64.toNat_and, UInt64.toNat_shiftRight] at hbiased
    rwa [← Nat.and_two_pow_sub_one_eq_mod, ← Nat.shiftRight_eq_div_pow]
  have hlow' : bits.toNat % 2 ^ 52 = 0 := by
    rw [UInt64.toNat_and] at hlow
    rwa [← Nat.and_two_pow_sub_one_eq_mod]
  have hmagnitude : bits.toNat % 2 ^ 63 = 0 := by
    omega
  apply UInt64.toNat_inj.mp
  rw [UInt64.toNat_and]
  exact (Nat.and_two_pow_sub_one_eq_mod bits.toNat 63).trans hmagnitude

namespace Interval

/-- The lower end of the interval around a value that is not zero is positive. -/
theorem low_ofBits_pos {bits : UInt64} (h : bits &&& 0x7FFFFFFFFFFFFFFF ≠ 0) :
    0 < (ofBits bits).low := by
  have hmantissa : 0 < if ((bits >>> 52) &&& 0x7FF).toNat = 0 then
      (bits &&& 0xFFFFFFFFFFFFF).toNat
      else 0x10000000000000 + (bits &&& 0xFFFFFFFFFFFFF).toNat := by
    split
    next hbiased =>
      refine Nat.pos_of_ne_zero fun hlow => h ?_
      exact magnitude_eq_zero hbiased hlow
    next => omega
  have hunit (e : Int) : 0 < if e < 0 then Nat.pow 5 (-e).toNat else Nat.pow 2 e.toNat := by
    split
    · exact Nat.pow_pos (by decide : 0 < 5)
    · exact Nat.pow_pos (by decide : 0 < 2)
  refine Nat.mul_pos ?_ (hunit _)
  -- the neighbour below is at most two quarters away, and the value at least four
  refine Nat.sub_pos_of_lt ?_
  split <;> omega

theorem low_le_value (bits : UInt64) : (ofBits bits).low ≤ (ofBits bits).value :=
  Nat.mul_le_mul_right _ (Nat.sub_le _ _)

/-- A multiple of a power of ten that is chosen from an interval of positive numbers is not
zero. -/
theorem significand_pos_of_onGrid? {x : Interval} (hlow : 0 < x.low) {places : Nat} {s : Scaled}
    (h : x.onGrid? places = some s) : 0 < s.significand := by
  have hbelow : x.admits (x.value / Nat.pow 10 places * Nat.pow 10 places) = true →
      0 < x.value / Nat.pow 10 places := by
    intro hadmits
    refine Nat.pos_of_ne_zero fun hzero => ?_
    rw [hzero, Nat.zero_mul, admits] at hadmits
    split at hadmits
    · simp only [Bool.and_eq_true, decide_eq_true_eq] at hadmits
      omega
    · simp only [Bool.and_eq_true, decide_eq_true_eq] at hadmits
      omega
  simp only [onGrid?] at h
  split at h
  next hadmits _ =>
    split at h
    · obtain rfl := Option.some.inj h
      exact hbelow hadmits
    · obtain rfl := Option.some.inj h
      exact Nat.succ_pos _
  next hadmits _ =>
    obtain rfl := Option.some.inj h
    exact hbelow hadmits
  next =>
    obtain rfl := Option.some.inj h
    exact Nat.succ_pos _
  next => cases h

theorem significand_shortest_pos {x : Interval} (hlow : 0 < x.low) (hvalue : x.low ≤ x.value) :
    0 < x.shortest.significand := by
  rw [shortest]
  cases hfound : ((List.range 17).map fun n => (digits x.value).length - (n + 1)).findSome?
      x.onGrid? with
  | none => exact Nat.lt_of_lt_of_le hlow hvalue
  | some s =>
    obtain ⟨places, -, hs⟩ := List.exists_of_findSome?_eq_some hfound
    exact significand_pos_of_onGrid? hlow hs

end Interval

/-- Taking away trailing zeros leaves a digit that is not zero. -/
theorem Scaled.significand_strip_pos {fuel : Nat} {x : Scaled} (h : 0 < x.significand) :
    0 < (x.strip fuel).significand := by
  induction fuel generalizing x with
  | zero => exact h
  | succ fuel ih =>
    rw [strip]
    split
    next hzero =>
      refine ih ?_
      change 0 < x.significand / 10
      omega
    next => exact h

/-- **The shortest decimal of a double that is not zero is not zero.** -/
theorem significand_shortestOfBits_pos {bits : UInt64} (h : bits &&& 0x7FFFFFFFFFFFFFFF ≠ 0) :
    0 < (shortestOfBits bits).significand :=
  Scaled.significand_strip_pos
    (Interval.significand_shortest_pos (Interval.low_ofBits_pos h) (Interval.low_le_value bits))

end Decimal

namespace Json

/-! ### The layout of a decimal -/

/-- A decimal that is not zero is laid out with a zero in front only if it stands alone before the
point. -/
theorem Numeral.written_layout (negative : Bool) {x : Scaled} (h : 0 < x.significand) :
    (layout negative x).Written := by
  obtain ⟨d, ds, hdigits, hd⟩ : ∃ d ds, digits x.significand = d :: ds ∧ d ≠ 0 := by
    rcases digits_eq_cons x.significand with ⟨hzero, -⟩ | ⟨-, hcons⟩
    · omega
    · exact hcons
  have hleading : ∀ es fs : List Digit, d :: es = 0 :: fs → fs = [] := by
    intro es fs heq
    exact absurd (List.cons.inj heq).1 hd
  have hzero : ∀ es : List Digit, [Digit.zero] = 0 :: es → es = [] := by
    intro es heq
    exact (List.cons.inj heq).2.symm
  simp only [layout, hdigits]
  split
  next =>
    refine ⟨?_, ?_, fun e he => by cases he⟩
    · rw [List.take_succ_cons]
      exact List.cons_ne_nil _ _
    · intro es hes
      rw [List.take_succ_cons] at hes
      exact hleading _ es hes
  next =>
    split
    next => exact ⟨List.cons_ne_nil _ _, hzero, fun e he => by cases he⟩
    next =>
      refine ⟨List.cons_ne_nil _ _, fun es hes => hleading _ es hes, ?_⟩
      rintro e ⟨⟩
      exact digits_ne_nil _

/-- **The numeral of a double is read back from its text.** -/
theorem Numeral.written_ofFloat (x : Float) : (ofFloat x).Written := by
  rw [ofFloat]
  split
  next =>
    refine ⟨List.cons_ne_nil _ _, ?_, fun e he => by cases he⟩
    intro es hes
    exact (List.cons.inj hes).2.symm
  next h => exact written_layout _ (significand_shortestOfBits_pos h)

theorem Value.written_real (x : Float) : (real x).Written := by
  rw [real]
  split
  · exact Numeral.written_ofFloat x
  · trivial

theorem Value.levels_real (x : Float) : (real x).levels = 0 := by
  rw [real]
  split <;> rfl

end Json

end PlatformAudit
