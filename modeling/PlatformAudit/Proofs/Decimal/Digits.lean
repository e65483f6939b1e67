import Mathlib.Data.List.Basic
import Mathlib.Tactic.Ring
import PlatformAudit.Decimal.Digits

/-!
# Digits stand for the number they were made of

The digits of a number are made from the last one on, those already made waiting in a
tail. The invariant of that loop is that the tail, read on from what is left of the
number, comes to the number (`PlatformAudit.Decimal.foldl_digitsOnto`). So the digits
of a number stand for it, two numbers with the same notation are equal
(`PlatformAudit.Decimal.text_injective`), and the first digit is zero for zero alone
(`PlatformAudit.Decimal.digits_eq_cons`).

Reading goes through characters: digits that are written and followed by anything but
a digit are read back as they are (`PlatformAudit.Decimal.takeDigits_append`). Leading
zeros change nothing (`PlatformAudit.Decimal.ofDigits_paddedDigits`).
-/

namespace PlatformAudit.Decimal

/-! ### Characters -/

theorem Digit.toNat_char (d : Digit) : d.char.toNat = 48 + d.val := by
  revert d
  decide

@[simp]
theorem Digit.ofChar?_char (d : Digit) : Digit.ofChar? d.char = some d := by
  revert d
  decide

theorem Digit.char_injective : Function.Injective Digit.char := by
  intro d e h
  have hsome : some d = some e := by rw [← ofChar?_char d, h, ofChar?_char]
  exact Option.some.inj hsome

/-- A text that does not go on with a digit. -/
def EndsDigits (cs : List Char) : Prop :=
  ∀ c ∈ cs.head?, Digit.ofChar? c = none

theorem endsDigits_nil : EndsDigits [] := by
  intro c hc
  cases hc

theorem EndsDigits.take {cs : List Char} (h : EndsDigits cs) (k : Nat) :
    EndsDigits (cs.take k) := by
  cases k with
  | zero => exact endsDigits_nil
  | succ k =>
    cases cs with
    | nil => exact endsDigits_nil
    | cons c cs => exact h

/-- **Digits that are written are read back**, as long as what follows is not a digit. -/
theorem takeDigits_append (ds : List Digit) {rest : List Char} (h : EndsDigits rest) :
    takeDigits (ds.map Digit.char ++ rest) = (ds, rest) := by
  induction ds with
  | nil =>
    cases rest with
    | nil => rfl
    | cons c cs =>
      have hc : Digit.ofChar? c = none := h c rfl
      rw [List.map_nil, List.nil_append, takeDigits, hc]
  | cons d ds ih =>
    rw [List.map_cons, List.cons_append, takeDigits, Digit.ofChar?_char, ih]

/-! ### Numbers -/

theorem ofNat_val (n : Nat) : (Fin.ofNat 10 n).val = n % 10 :=
  rfl

/-- The invariant of the loop that makes digits: read on from what is left of the number, those
already made come to the number. -/
theorem foldl_digitsOnto (tail : List Digit) {fuel n : Nat} (h : n < fuel) :
    (digitsOnto tail fuel n).foldl (fun m d => 10 * m + d.val) 0 =
      tail.foldl (fun m d => 10 * m + d.val) n := by
  induction fuel generalizing tail n with
  | zero => omega
  | succ fuel ih =>
    rw [digitsOnto]
    split
    next hlast =>
      rw [List.foldl_cons, ofNat_val]
      congr 1
      omega
    next hmore =>
      have hlt : n / 10 < fuel := by omega
      rw [ih _ hlt, List.foldl_cons, ofNat_val]
      congr 1
      omega

/-- **The digits of a number stand for it.** -/
@[simp]
theorem ofDigits_digits (n : Nat) : ofDigits (digits n) = n := by
  rw [ofDigits, digits, foldl_digitsOnto [] (Nat.lt_succ_self n)]
  rfl

/-- The digits of a positive number begin with one that is not zero. -/
theorem digitsOnto_eq_cons (tail : List Digit) {fuel n : Nat} (hpos : 0 < n) (h : n < fuel) :
    ∃ d ds, digitsOnto tail fuel n = d :: ds ∧ d ≠ 0 := by
  induction fuel generalizing tail n with
  | zero => omega
  | succ fuel ih =>
    rw [digitsOnto]
    split
    next hlast =>
      refine ⟨Fin.ofNat 10 n, tail, rfl, fun hzero => ?_⟩
      have hval : n % 10 = 0 := congrArg Fin.val hzero
      omega
    next hmore =>
      exact ih _ (by omega) (by omega)

/-- **The first digit of a number is not zero**, unless the number is. -/
theorem digits_eq_cons (n : Nat) :
    n = 0 ∧ digits n = [0] ∨ 0 < n ∧ ∃ d ds, digits n = d :: ds ∧ d ≠ 0 := by
  rcases Nat.eq_zero_or_pos n with rfl | hpos
  · exact Or.inl ⟨rfl, rfl⟩
  · exact Or.inr ⟨hpos, digitsOnto_eq_cons [] hpos (Nat.lt_succ_self n)⟩

theorem digits_ne_nil (n : Nat) : digits n ≠ [] := by
  rcases digits_eq_cons n with ⟨-, hdigits⟩ | ⟨-, d, ds, hdigits, -⟩ <;> simp [hdigits]

/-- **Numbers with the same notation are equal.** -/
theorem text_injective : Function.Injective text := by
  intro m n h
  have hdigits : digits m = digits n := Digit.char_injective.list_map h
  rw [← ofDigits_digits m, hdigits, ofDigits_digits]

/-- The notation of a number has nothing but digits in it. -/
theorem isDigit_of_mem_text {n : Nat} {c : Char} (h : c ∈ text n) :
    48 ≤ c.toNat ∧ c.toNat < 58 := by
  obtain ⟨d, -, rfl⟩ := List.mem_map.mp h
  rw [Digit.toNat_char]
  omega

/-! ### Leading zeros -/

/-- The digits of a number with leading zeros. -/
def paddedDigits (width n : Nat) : List Digit :=
  (List.range width).reverse.map fun k => ⟨n / Nat.pow 10 k % 10, Nat.mod_lt _ (by decide)⟩

theorem padded_eq (width n : Nat) : padded width n = (paddedDigits width n).map Digit.char := by
  rw [padded, paddedDigits, List.map_map]
  rfl

theorem length_paddedDigits (width n : Nat) : (paddedDigits width n).length = width := by
  rw [paddedDigits, List.length_map, List.length_reverse, List.length_range]

/-- Read on from a number, the digits of `n` are put behind it. -/
theorem foldl_paddedDigits (width n m : Nat) :
    (paddedDigits width n).foldl (fun m d => 10 * m + d.val) m =
      m * 10 ^ width + n % 10 ^ width := by
  induction width generalizing m with
  | zero => simp [paddedDigits, Nat.mod_one]
  | succ width ih =>
    have hcons : paddedDigits (width + 1) n =
        Fin.ofNat 10 (n / 10 ^ width) :: paddedDigits width n := by
      rw [paddedDigits, List.range_succ, List.reverse_append]
      rfl
    rw [hcons, List.foldl_cons, ofNat_val, ih, Nat.mod_pow_succ, Nat.pow_succ]
    ring

/-- **Digits with leading zeros stand for the number**, if it has no more digits than that. -/
theorem ofDigits_paddedDigits {width n : Nat} (h : n < 10 ^ width) :
    ofDigits (paddedDigits width n) = n := by
  rw [ofDigits, foldl_paddedDigits, Nat.zero_mul, Nat.zero_add, Nat.mod_eq_of_lt h]

theorem ofDigits_replicate_append (k : Nat) (ds : List Digit) :
    ofDigits (List.replicate k Digit.zero ++ ds) = ofDigits ds := by
  induction k with
  | zero => rfl
  | succ k ih =>
    rw [List.replicate_succ, List.cons_append, ← ih]
    rfl

end PlatformAudit.Decimal
