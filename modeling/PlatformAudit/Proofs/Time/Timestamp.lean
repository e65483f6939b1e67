import PlatformAudit.Proofs.Decimal.Digits
import PlatformAudit.Proofs.Time.Calendar
import PlatformAudit.Time.Timestamp

/-!
# Instants and their notation

Every instant is read back from its notation (`PlatformAudit.Time.Timestamp.parse_toText`):
years of any sign and length, the decimals of a second in whatever number, and leap
seconds, which are written as the sixtieth second of a minute and read as a longer
fifty-ninth. The reader is more liberal than the notation, so each of its steps is shown
to take from the text exactly what was written for it and to stop there
(`PlatformAudit.Time.Timestamp.instant_parts`).

The instants are those that there are (`PlatformAudit.Time.Timestamp.Valid`). A leap
second in the middle of a minute, say, would be written as the second after it.
-/

namespace PlatformAudit.Time.Timestamp

open Decimal Text

/-! ### Numbers -/

variable {α β : Type}

theorem bind_of_ok {p : Parse α} {f : α → Parse β} {cs rest : List Char} {a : α}
    (h : p cs = .ok (a, rest)) : (p >>= f) cs = f a rest := by
  change Except.bind (p cs) (fun x => f x.1 x.2) = _
  rw [h]
  rfl

/-- Digits are read as the number they stand for, if no digit follows them as far as the width of
the number reaches. -/
theorem number_append {width : Option Nat} {ds : List Digit} (hne : ds ≠ []) {rest : List Char}
    (hwidth : ∀ w ∈ width, ds.length ≤ w)
    (hends : EndsDigits (width.elim rest fun w => rest.take (w - ds.length)))
    (hmax : ofDigits ds ≤ maxNumber) :
    number width (ds.map Digit.char ++ rest) = .ok (ofDigits ds, rest) := by
  have hcut : width.elim (ds.map Digit.char ++ rest) (ds.map Digit.char ++ rest).take =
      ds.map Digit.char ++ width.elim rest fun w => rest.take (w - ds.length) := by
    cases width with
    | none => rfl
    | some w =>
      have hle : ds.length ≤ w := hwidth w rfl
      simp only [Option.elim_some, List.take_append, List.length_map]
      rw [List.take_of_length_le (by rwa [List.length_map])]
  have htake := takeDigits_append ds hends
  rw [← hcut] at htake
  obtain ⟨d, ds, rfl⟩ := List.exists_cons_of_ne_nil hne
  have hnonempty : ((d :: ds).map Digit.char ++ rest).isEmpty = false := rfl
  have hfits : ¬maxNumber < ofDigits (d :: ds) := Nat.not_lt.mpr hmax
  have hdrop : ((d :: ds).map Digit.char ++ rest).drop (d :: ds).length = rest := by
    rw [← List.length_map Digit.char, List.drop_left]
  rw [number, bind_of_ok rfl]
  simp only [htake, hnonempty, hfits, hdrop, List.isEmpty_cons, Bool.false_eq_true, if_false]
  rfl

/-! ### The parts of the notation -/

/-- A text that does not begin with a blank. -/
def Solid (cs : List Char) : Prop :=
  ∀ c ∈ cs.head?, isBlank c = false

theorem solid_cons {c : Char} (h : isBlank c = false) (cs : List Char) : Solid (c :: cs) := by
  intro d hd
  obtain rfl := Option.some.inj hd
  exact h

theorem solid_digits {ds : List Digit} (hne : ds ≠ []) (rest : List Char) :
    Solid (ds.map Digit.char ++ rest) := by
  obtain ⟨d, ds, rfl⟩ := List.exists_cons_of_ne_nil hne
  have hall : ∀ d : Digit, isBlank d.char = false := by decide
  exact solid_cons (hall d) _

theorem blanks_of_solid {cs : List Char} (h : Solid cs) : blanks cs = .ok ((), cs) := by
  have htrim : trimStart cs = cs := by
    cases cs with
    | nil => rfl
    | cons c cs =>
      rw [trimStart, List.dropWhile_cons_of_neg (by rw [h c rfl]; exact Bool.false_ne_true)]
  change Except.ok ((), trimStart cs) = _
  rw [htrim]

theorem mark_cons {c : Char} (h : isBlank c = false) (rest : List Char) :
    mark c (c :: rest) = .ok ((), rest) := by
  rw [mark, bind_of_ok (blanks_of_solid (solid_cons h rest)), bind_of_ok rfl]
  simp only [if_true]
  rfl

/-- A number of `w` digits is read where up to `width` are taken, if no digit follows among them. -/
theorem number_padded {w width n : Nat} (hpos : 0 < w) (hle : w ≤ width) (hmost : width ≤ 9)
    (hn : n < 10 ^ w) {rest : List Char} (hends : EndsDigits (rest.take (width - w))) :
    number (some width) (padded w n ++ rest) = .ok (n, rest) := by
  have hlength := length_paddedDigits w n
  have hne : paddedDigits w n ≠ [] := by
    rw [← List.length_pos_iff, hlength]
    exact hpos
  have hmax : n ≤ maxNumber := by
    have hpow : 10 ^ w ≤ 10 ^ 9 := Nat.pow_le_pow_right (by decide) (by omega)
    have hbound : 10 ^ 9 ≤ maxNumber := by decide
    omega
  have hvalue := ofDigits_paddedDigits hn
  have hread : number (some width) ((paddedDigits w n).map Digit.char ++ rest) =
      .ok (ofDigits (paddedDigits w n), rest) := by
    refine number_append hne ?_ (by rwa [Option.elim_some, hlength]) (by rwa [hvalue])
    rintro _ ⟨⟩
    omega
  rwa [hvalue, ← padded_eq] at hread

theorem solid_padded {w : Nat} (hpos : 0 < w) (n : Nat) (rest : List Char) :
    Solid (padded w n ++ rest) := by
  rw [padded_eq]
  refine solid_digits ?_ rest
  rw [← List.length_pos_iff, length_paddedDigits]
  exact hpos

theorem bounded_padded {lo hi n : Nat} (hlo : lo ≤ n) (hhi : n ≤ hi) (hn : n < 100)
    (rest : List Char) : bounded lo hi (padded 2 n ++ rest) = .ok (n, rest) := by
  have hnumber : number (some 2) (padded 2 n ++ rest) = .ok (n, rest) :=
    number_padded (by decide) (Nat.le_refl 2) (by decide) hn endsDigits_nil
  rw [bounded, bind_of_ok (blanks_of_solid (solid_padded (by decide) n rest)),
    bind_of_ok hnumber, if_pos ⟨hlo, hhi⟩]
  rfl

/-- A number that no digit follows is read whatever zeros stand before it. -/
theorem number_zeros {n : Nat} (hmax : n ≤ maxNumber) (k : Nat) {rest : List Char}
    (hends : EndsDigits rest) :
    number none (List.replicate k '0' ++ text n ++ rest) = .ok (n, rest) := by
  have hdigits : List.replicate k '0' ++ text n =
      (List.replicate k Digit.zero ++ digits n).map Digit.char := by
    rw [List.map_append, List.map_replicate]
    rfl
  have hvalue : ofDigits (List.replicate k Digit.zero ++ digits n) = n := by
    rw [ofDigits_replicate_append, ofDigits_digits]
  have hne : List.replicate k Digit.zero ++ digits n ≠ [] := by simp [digits_ne_nil]
  have hread : number none ((List.replicate k Digit.zero ++ digits n).map Digit.char ++ rest) =
      .ok (ofDigits (List.replicate k Digit.zero ++ digits n), rest) := by
    refine number_append hne ?_ hends (by rwa [hvalue])
    rintro _ ⟨⟩
  rw [hdigits, hread, hvalue]

theorem year_minus {cs rest : List Char} {n : Nat} (h : number none cs = .ok (n, rest))
    (hn : n ≤ Nat.pow 2 31) : year ('-' :: cs) = .ok (-n, rest) := by
  rw [year, bind_of_ok (blanks_of_solid (solid_cons (by decide) cs)), bind_of_ok rfl]
  change (set cs >>= fun _ => number none >>= fun n => _) _ = _
  rw [bind_of_ok rfl, bind_of_ok h, if_pos hn]
  rfl

theorem year_plus {cs rest : List Char} {n : Nat} (h : number none cs = .ok (n, rest))
    (hn : n < Nat.pow 2 31) : year ('+' :: cs) = .ok (n, rest) := by
  rw [year, bind_of_ok (blanks_of_solid (solid_cons (by decide) cs)), bind_of_ok rfl]
  change (set cs >>= fun _ => number none >>= fun n => _) _ = _
  rw [bind_of_ok rfl, bind_of_ok h, if_pos hn]
  rfl

theorem year_unsigned {cs rest : List Char} {n : Nat} (hsolid : Solid cs)
    (hsign : ∀ c ∈ cs.head?, c ≠ '-' ∧ c ≠ '+') (h : number (some 4) cs = .ok (n, rest)) :
    year cs = .ok (n, rest) := by
  rw [year, bind_of_ok (blanks_of_solid hsolid), bind_of_ok rfl]
  split
  next cs => exact absurd rfl (hsign '-' rfl).1
  next cs => exact absurd rfl (hsign '+' rfl).2
  next =>
    rw [bind_of_ok h]
    rfl

/-- A year is read back, whatever its sign and the number of its digits. -/
theorem year_yearText {y : Int} (hlo : minYear ≤ y) (hhi : y ≤ maxYear) (rest : List Char) :
    year (yearText y ++ '-' :: rest) = .ok (y, '-' :: rest) := by
  have hdash : EndsDigits ('-' :: rest) := by
    rintro _ ⟨⟩
    decide
  have hmost : y.natAbs ≤ 262143 := by
    simp only [minYear, maxYear] at hlo hhi
    omega
  have hread := number_zeros (Nat.le_trans hmost (by decide)) (4 - (text y.natAbs).length) hdash
  rw [yearText]
  by_cases hfour : 0 ≤ y ∧ y ≤ 9999
  · rw [if_pos hfour]
    have hnumber : number (some 4) (padded 4 y.toNat ++ '-' :: rest) =
        .ok (y.toNat, '-' :: rest) :=
      number_padded (by decide) (Nat.le_refl 4) (by decide) (by omega) endsDigits_nil
    have hsign : ∀ c ∈ (padded 4 y.toNat ++ '-' :: rest).head?, c ≠ '-' ∧ c ≠ '+' := by
      have hall : ∀ d : Digit, d.char ≠ '-' ∧ d.char ≠ '+' := by decide
      rintro _ ⟨⟩
      exact hall _
    rw [year_unsigned (solid_padded (by decide) _ _) hsign hnumber, Int.toNat_of_nonneg hfour.1]
  · rw [if_neg hfour]
    by_cases hneg : y < 0
    · have hvalue : -(y.natAbs : Int) = y := by omega
      simp only [if_pos hneg, List.cons_append]
      rw [year_minus hread (Nat.le_trans hmost (by decide)), hvalue]
    · have hvalue : (y.natAbs : Int) = y := by omega
      simp only [if_neg hneg, List.cons_append]
      rw [year_plus hread (Nat.lt_of_le_of_lt hmost (by decide)), hvalue]

/-- The decimals of a second are its nanoseconds without their last zeros. -/
theorem fractionText_cases {nanos : Nat} (h : nanos < 1000000000) :
    nanos = 0 ∧ fractionText nanos = [] ∨
      ∃ w n, 0 < w ∧ w ≤ 9 ∧ n < 10 ^ w ∧ nanos = n * 10 ^ (9 - w) ∧
        fractionText nanos = '.' :: padded w n := by
  rw [fractionText]
  split
  next hzero => exact Or.inl ⟨hzero, rfl⟩
  next =>
    refine Or.inr ?_
    split
    next hmillis => exact ⟨3, nanos / 1000000, by decide, by decide, by omega, by omega, rfl⟩
    next =>
      split
      next hmicros => exact ⟨6, nanos / 1000, by decide, by decide, by omega, by omega, rfl⟩
      next => exact ⟨9, nanos, by decide, by decide, by omega, by omega, rfl⟩

theorem decimals_fractionText {nanos : Nat} (h : nanos < 1000000000) :
    decimals (fractionText nanos ++ ['Z']) = .ok (nanos, ['Z']) := by
  rcases fractionText_cases h with ⟨rfl, hnone⟩ | ⟨w, n, hpos, hle, hn, rfl, htext⟩
  · rw [hnone]
    rfl
  · have hends : EndsDigits ['Z'] := by
      rintro _ ⟨⟩
      decide
    have hnumber : number (some 9) (padded w n ++ ['Z']) = .ok (n, ['Z']) :=
      number_padded hpos hle (by decide) hn (hends.take _)
    have hcount : (padded w n ++ ['Z']).length - ['Z'].length = w := by
      rw [List.length_append, padded_eq, List.length_map, length_paddedDigits, Nat.add_sub_cancel]
    rw [htext, List.cons_append, decimals, bind_of_ok rfl]
    change (set (padded w n ++ ['Z']) >>= fun _ => number (some 9) >>= fun n => _) _ = _
    rw [bind_of_ok rfl, bind_of_ok hnumber, bind_of_ok rfl, bind_of_ok rfl, hcount]
    rfl

/-! ### Instants -/

/-- An instant that there is: its day is one of the calendar's, and a second is longer than a
second only at the end of a minute. -/
structure Valid (t : Timestamp) : Prop where
  notBefore : (Date.mk minYear 1 1).toDays ≤ t.seconds / 86400
  notAfter : t.seconds / 86400 ≤ (Date.mk maxYear 12 31).toDays
  nanos_lt : t.nanos < 2000000000
  leapSecond : 1000000000 ≤ t.nanos → t.seconds % 60 = 59

/-- The parts of the notation are read one after the other, and those of a date and of a time of
day that there are make an instant. -/
theorem instant_parts (date : Date) (hour minute second nanos : Nat) (hdate : date.isValid)
    (hlo : minYear ≤ date.year) (hhi : date.year ≤ maxYear) (hhour : hour ≤ 23)
    (hminute : minute ≤ 59) (hsecond : second ≤ 60) (hnanos : nanos < 1000000000)
    (hfirst : (Date.mk minYear 1 1).toDays ≤ date.toDays)
    (hlast : date.toDays ≤ (Date.mk maxYear 12 31).toDays) :
    instant (yearText date.year ++ '-' :: (padded 2 date.month ++ '-' :: (padded 2 date.day ++
      'T' :: (padded 2 hour ++ ':' :: (padded 2 minute ++ ':' :: (padded 2 second ++
        (fractionText nanos ++ ['Z']))))))) =
      .ok ({ seconds := date.toDays * 86400 +
               ((hour * 3600 + minute * 60 + (if second = 60 then 59 else second) : Nat) : Int)
             nanos := if second = 60 then nanos + 1000000000 else nanos }, []) := by
  obtain ⟨⟨⟨hmonth, hmonth'⟩, hday⟩, hday'⟩ : ((1 ≤ date.month ∧ date.month ≤ 12) ∧
      1 ≤ date.day) ∧ date.day ≤ daysInMonth date.year date.month := by
    simpa only [Date.isValid, Bool.and_eq_true, decide_eq_true_eq] using hdate
  have hday31 : date.day ≤ 31 := by
    refine Nat.le_trans hday' ?_
    rw [daysInMonth]
    split
    · split <;> decide
    · split <;> decide
  have hdivider (cs : List Char) : divider ('T' :: cs) = .ok ((), cs) := rfl
  have hzone : zone ['Z'] = .ok (0, []) := rfl
  have hend : blanks [] = .ok ((), []) := rfl
  have hseconds : (date.toDays * 86400 + ((hour * 3600 + minute * 60 +
      (if second = 60 then 59 else second) : Nat) : Int)) / 86400 = date.toDays := by
    split <;> omega
  have hchecked : ¬((!date.isValid) = true ∨ date.year < minYear ∨ maxYear < date.year ∨
      86400 ≤ (0 : Int).natAbs) := by
    rintro (hinvalid | hbefore | hafter | hoffset)
    · rw [hdate] at hinvalid
      cases hinvalid
    · omega
    · omega
    · cases hoffset
  have hpossible : ¬(date.toDays < (Date.mk minYear 1 1).toDays ∨
      (Date.mk maxYear 12 31).toDays < date.toDays) := by
    omega
  rw [instant, bind_of_ok (year_yearText hlo hhi _), bind_of_ok (mark_cons (by decide) _),
    bind_of_ok (bounded_padded hmonth hmonth' (by omega) _),
    bind_of_ok (mark_cons (by decide) _),
    bind_of_ok (bounded_padded hday hday31 (by omega) _), bind_of_ok (hdivider _),
    bind_of_ok (bounded_padded (Nat.zero_le _) hhour (by omega) _),
    bind_of_ok (mark_cons (by decide) _),
    bind_of_ok (bounded_padded (Nat.zero_le _) hminute (by omega) _),
    bind_of_ok (mark_cons (by decide) _),
    bind_of_ok (bounded_padded (Nat.zero_le _) hsecond (by omega) _),
    bind_of_ok (decimals_fractionText hnanos),
    bind_of_ok (blanks_of_solid (solid_cons (by decide) [])), bind_of_ok hzone, bind_of_ok hend,
    bind_of_ok rfl]
  simp only [Int.sub_zero, hseconds, hchecked, hpossible, List.isEmpty_nil, Bool.not_true,
    Bool.false_eq_true, if_false]
  rfl

/-- **An instant is read back from its notation.** -/
theorem parse_toText {t : Timestamp} (h : t.Valid) : parse t.toText = .ok t := by
  obtain ⟨hfirst, hlast, hnanos, hleap⟩ := h
  have hdays := toDays_ofDays (t.seconds / 86400)
  obtain ⟨hlo, hhi⟩ := year_ofDays_mem hfirst hlast
  obtain ⟨s, hs⟩ : ∃ s, (t.seconds % 86400).toNat = s := ⟨_, rfl⟩
  have hslt : s < 86400 := by omega
  -- the second of the minute is 60 in a leap second, and only there
  have hsixty : s % 60 + t.nanos / 1000000000 = 60 ↔ 1000000000 ≤ t.nanos := by
    constructor
    · omega
    · intro hlong
      have hlast := hleap hlong
      omega
  have hparts := instant_parts (Date.ofDays (t.seconds / 86400)) (s / 3600) (s / 60 % 60)
    (s % 60 + t.nanos / 1000000000) (t.nanos % 1000000000) (isValid_ofDays _) hlo hhi (by omega)
    (by omega) (by omega) (by omega) (by rwa [hdays]) (by rwa [hdays])
  have hseconds : t.seconds / 86400 * 86400 + ((s / 3600 * 3600 + s / 60 % 60 * 60 +
      (if s % 60 + t.nanos / 1000000000 = 60 then 59 else s % 60 + t.nanos / 1000000000) : Nat) :
        Int) = t.seconds := by
    split <;> omega
  have hnanos : (if s % 60 + t.nanos / 1000000000 = 60 then t.nanos % 1000000000 + 1000000000
      else t.nanos % 1000000000) = t.nanos := by
    split <;> omega
  rw [hdays, hseconds, hnanos] at hparts
  rw [parse, toText, String.toList_ofList]
  simp only [hs, List.append_assoc, List.cons_append, hparts]
  rfl

end PlatformAudit.Time.Timestamp
