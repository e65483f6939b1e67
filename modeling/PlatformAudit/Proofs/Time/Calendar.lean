import Mathlib.Tactic.IntervalCases
import Mathlib.Tactic.NormNum
import PlatformAudit.Time.Calendar

/-!
# Days and their dates

Every day has a date, and the date leads back to the day
(`PlatformAudit.Time.toDays_ofDays`, `PlatformAudit.Time.isValid_ofDays`).

The date of a day is computed by divisions that are not exact: neither the years nor the
months have the same number of days, and the quotients are right only because each of
them is corrected by the others. The proofs therefore do not follow the divisions. They
say where a day **stands** in its era (`PlatformAudit.Time.StandsIn`), which is found by
dividing from the largest unit to the smallest with the exceptions stated as such, and
check that the divisions come to the same
(`PlatformAudit.Time.StandsIn.yearOfEra`). Between an era and a date stand the years that
begin in March (`PlatformAudit.Time.Date.ofMarch`).
-/

namespace PlatformAudit.Time

/-! ### Days of an era -/

/-- Where a day stands in an era: in which century, in which cycle of four years of the century,
in which year of the cycle, and on which day of that year. A year has a day number 365 only if it
is the last of its cycle, and if that is the last of a century, only in the last century. -/
structure StandsIn (day century cycle year dayOfYear : Int) : Prop where
  day_eq : day = 36524 * century + 1461 * cycle + 365 * year + dayOfYear
  century_mem : 0 ≤ century ∧ century ≤ 3
  cycle_mem : 0 ≤ cycle ∧ cycle ≤ 24
  year_mem : 0 ≤ year ∧ year ≤ 3
  dayOfYear_mem : 0 ≤ dayOfYear ∧ dayOfYear ≤ 365
  leapDay : dayOfYear = 365 → year = 3 ∧ (cycle = 24 → century = 3)

/-- **Every day of an era stands somewhere in it.** -/
theorem exists_standsIn {day : Int} (hpos : 0 ≤ day) (hlt : day < 146097) :
    ∃ century cycle year dayOfYear, StandsIn day century cycle year dayOfYear := by
  obtain ⟨c, r, hday, hc, hr, hlast⟩ : ∃ c r : Int, day = 36524 * c + r ∧ (0 ≤ c ∧ c ≤ 3) ∧
      (0 ≤ r ∧ r ≤ 36524) ∧ (r = 36524 → c = 3) := by
    by_cases hend : day = 146096
    · exact ⟨3, 36524, by omega, by omega, by omega, by omega⟩
    · exact ⟨day / 36524, day % 36524, by omega, by omega, by omega, by omega⟩
  obtain ⟨z, k, hs, hz, hk, hleap⟩ : ∃ z k : Int, r % 1461 = 365 * z + k ∧ (0 ≤ z ∧ z ≤ 3) ∧
      (0 ≤ k ∧ k ≤ 365) ∧ (k = 365 → z = 3) := by
    by_cases hend : r % 1461 = 1460
    · exact ⟨3, 365, by omega, by omega, by omega, by omega⟩
    · exact ⟨r % 1461 / 365, r % 1461 % 365, by omega, by omega, by omega, by omega⟩
  refine ⟨c, r / 1461, z, k, by omega, hc, by omega, hz, hk, fun hk => ⟨hleap hk, fun hq => ?_⟩⟩
  have hz := hleap hk
  exact hlast (by omega)

namespace StandsIn

variable {day c q z k : Int}

theorem yearOfEra_mem (h : StandsIn day c q z k) :
    0 ≤ 100 * c + 4 * q + z ∧ 100 * c + 4 * q + z ≤ 399 := by
  obtain ⟨-, hc, hq, hz, -, -⟩ := h
  omega

/-- The centuries before a day. The last day of an era is the only one that would fall into a
fifth. -/
theorem centuries (h : StandsIn day c q z k) : day / 36524 - day / 146096 = c := by
  obtain ⟨hday, hc, hq, hz, hk, hleap⟩ := h
  obtain ⟨r, hr⟩ : ∃ r, r = 1461 * q + 365 * z + k := ⟨_, rfl⟩
  have hcentury : 0 ≤ r ∧ (r < 36524 ∨ r = 36524 ∧ c = 3) := by
    refine ⟨by omega, ?_⟩
    by_cases hlast : k = 365 ∧ q = 24
    · obtain ⟨hyear, hcentury⟩ := hleap hlast.1
      exact Or.inr ⟨by omega, hcentury hlast.2⟩
    · by_cases hk : k = 365
      · exact Or.inl (by omega)
      · exact Or.inl (by omega)
  have hsum : day = 36524 * c + r := by omega
  clear hday hr hq hz hk hleap
  omega

/-- **The year of an era is computed from the day alone**: when the leap days before it are taken
off, every year has 365 days. -/
theorem yearOfEra (h : StandsIn day c q z k) :
    (day - day / 1460 + day / 36524 - day / 146096) / 365 = 100 * c + 4 * q + z := by
  have hcenturies := h.centuries
  obtain ⟨hday, hc, hq, hz, hk, hleap⟩ := h
  -- the quotient by 1460 takes off the leap day of the cycle as soon as it is near
  obtain ⟨t, ht, hnear⟩ : ∃ t : Int, day / 1460 = 25 * c + q + t ∧
      (t = 0 ∧ 24 * c + q + 365 * z + k < 1460 ∨ t = 1 ∧ 1460 ≤ 24 * c + q + 365 * z + k) := by
    by_cases hnear : 24 * c + q + 365 * z + k < 1460
    · exact ⟨0, by omega, Or.inl ⟨rfl, hnear⟩⟩
    · exact ⟨1, by omega, Or.inr ⟨rfl, by omega⟩⟩
  have hdays : day - day / 1460 + day / 36524 - day / 146096 =
      365 * (100 * c + 4 * q + z) + (k - t) := by
    omega
  have hyear : 0 ≤ k - t ∧ k - t < 365 := by
    rcases hnear with ⟨rfl, hbefore⟩ | ⟨rfl, hafter⟩
    · refine ⟨by omega, ?_⟩
      by_cases hlast : k = 365
      · have hz := (hleap hlast).1
        omega
      · omega
    · omega
  rw [hdays]
  omega

theorem dayOfYear (h : StandsIn day c q z k) :
    day - (365 * (100 * c + 4 * q + z) + (100 * c + 4 * q + z) / 4 -
      (100 * c + 4 * q + z) / 100) = k := by
  obtain ⟨hday, hc, hq, hz, -, -⟩ := h
  omega

/-- A year that begins in March has a day number 365 only before March of a leap year. -/
theorem isLeapYear (h : StandsIn day c q z k) (hk : k = 365) (era : Int) :
    isLeapYear (100 * c + 4 * q + z + era * 400 + 1) := by
  obtain ⟨hz, hcentury⟩ := h.leapDay hk
  obtain ⟨-, hc, hq, -, -, -⟩ := h
  simp only [Time.isLeapYear, Bool.and_eq_true, Bool.or_eq_true, decide_eq_true_eq]
  refine ⟨by omega, ?_⟩
  by_cases hlast : q = 24
  · have hc := hcentury hlast
    exact Or.inr (by omega)
  · exact Or.inl (by omega)

end StandsIn

/-! ### Years that begin in March -/

/-- The day with this number in the year that begins in March. -/
def Date.ofMarch (year dayOfYear : Int) : Date :=
  let month := (5 * dayOfYear + 2) / 153
  { year := if month < 10 then year else year + 1
    month := (if month < 10 then month + 3 else month - 9).toNat
    day := (dayOfYear - (153 * month + 2) / 5 + 1).toNat }

/-- The number of days from March of the year zero to March of a year. -/
def daysBefore (year : Int) : Int :=
  365 * year + year / 4 - year / 100 + year / 400

theorem daysBefore_add_le {a b : Int} (h : a < b) : daysBefore a + 365 ≤ daysBefore b := by
  have hcenturies : b / 100 - a / 100 ≤ b / 4 - a / 4 := by
    have ha : a / 100 = a / 4 / 25 := by omega
    have hb : b / 100 = b / 4 / 25 := by omega
    rw [ha, hb]
    omega
  have heras : a / 400 ≤ b / 400 := by omega
  rw [daysBefore, daysBefore]
  omega

theorem daysBefore_of_era {y : Int} (hy : 0 ≤ y ∧ y ≤ 399) (era : Int) :
    daysBefore (y + era * 400) = era * 146097 + (365 * y + y / 4 - y / 100) := by
  rw [daysBefore]
  omega

theorem ofDays_eq_ofMarch {n c q z k : Int} (h : StandsIn ((n + 719468) % 146097) c q z k) :
    Date.ofDays n = Date.ofMarch (100 * c + 4 * q + z + (n + 719468) / 146097 * 400) k := by
  have hk := h.dayOfYear_mem
  simp only [Date.ofDays, Date.ofMarch, h.yearOfEra, h.dayOfYear]
  congr 1
  by_cases hmonth : (5 * k + 2) / 153 < 10
  · rw [if_pos hmonth, if_pos hmonth, if_neg (by omega)]
  · rw [if_neg hmonth, if_neg hmonth, if_pos (by omega)]

/-- **A day is a day of some year that begins in March.** -/
theorem exists_ofMarch (n : Int) :
    ∃ year k, Date.ofDays n = Date.ofMarch year k ∧ n = daysBefore year + k - 719468 ∧
      (0 ≤ k ∧ k ≤ 365) ∧ (k = 365 → isLeapYear (year + 1)) := by
  have hpos : 0 ≤ (n + 719468) % 146097 := by omega
  obtain ⟨c, q, z, k, h⟩ := exists_standsIn hpos (by omega)
  refine ⟨_, k, ofDays_eq_ofMarch h, ?_, h.dayOfYear_mem, fun hk => h.isLeapYear hk _⟩
  have hday := h.dayOfYear
  rw [daysBefore_of_era h.yearOfEra_mem]
  omega

/-- The months from March on begin where it is computed that they do. -/
theorem toDays_ofMarch (year : Int) {k : Int} (hk : 0 ≤ k ∧ k ≤ 365) :
    (Date.ofMarch year k).toDays = daysBefore year + k - 719468 := by
  obtain ⟨m, hm⟩ : ∃ m, (5 * k + 2) / 153 = m := ⟨_, rfl⟩
  have hmonth : 0 ≤ m ∧ m ≤ 11 := by omega
  have hday : (((k - (153 * m + 2) / 5 + 1).toNat - 1 : Nat) : Int) = k - (153 * m + 2) / 5 := by
    omega
  simp only [Date.ofMarch, Date.toDays, hm, hday, daysBefore]
  by_cases hlate : m < 10
  · have hback : (((m + 3).toNat : Int) + 9) % 12 = m := by omega
    simp only [if_pos hlate, hback, if_neg (show ¬(m + 3).toNat ≤ 2 by omega)]
    omega
  · have hback : (((m - 9).toNat : Int) + 9) % 12 = m := by omega
    simp only [if_neg hlate, hback, if_pos (show (m - 9).toNat ≤ 2 by omega), Int.add_sub_cancel]
    omega

theorem isValid_ofMarch {year k : Int} (hk : 0 ≤ k ∧ k ≤ 365)
    (hleap : k = 365 → isLeapYear (year + 1)) : (Date.ofMarch year k).isValid := by
  obtain ⟨m, hm⟩ : ∃ m, (5 * k + 2) / 153 = m := ⟨_, rfl⟩
  have hmonth : 0 ≤ m ∧ m ≤ 11 := by omega
  simp only [Date.ofMarch, Date.isValid, hm, daysInMonth, Bool.and_eq_true, decide_eq_true_eq]
  by_cases hfebruary : m = 11
  · subst hfebruary
    by_cases hlast : k = 365
    · norm_num [hleap hlast]
      omega
    · norm_num
      split <;> omega
  · obtain ⟨hpos, hle⟩ := hmonth
    have hle : m ≤ 10 := by omega
    interval_cases m <;> norm_num <;> omega

/-! ### Dates -/

/-- **The date of a day leads back to it.** -/
theorem toDays_ofDays (n : Int) : (Date.ofDays n).toDays = n := by
  obtain ⟨year, k, hdate, hn, hk, -⟩ := exists_ofMarch n
  rw [hdate, toDays_ofMarch year hk, hn]

/-- **The date of a day is one that there is.** -/
theorem isValid_ofDays (n : Int) : (Date.ofDays n).isValid := by
  obtain ⟨year, k, hdate, -, hk, hleap⟩ := exists_ofMarch n
  rw [hdate]
  exact isValid_ofMarch hk hleap

/-- The days from the first of January of one year to the last of December of another have years
between the two. -/
theorem year_ofDays_mem {first last n : Int} (hfirst : (Date.mk first 1 1).toDays ≤ n)
    (hlast : n ≤ (Date.mk last 12 31).toDays) :
    first ≤ (Date.ofDays n).year ∧ (Date.ofDays n).year ≤ last := by
  obtain ⟨year, k, hdate, hn, hk, -⟩ := exists_ofMarch n
  have hjanuary : (Date.mk first 1 1).toDays = daysBefore (first - 1) + 306 - 719468 := by
    simp only [Date.toDays, daysBefore]
    norm_num
    omega
  have hdecember : (Date.mk last 12 31).toDays = daysBefore last + 305 - 719468 := by
    simp only [Date.toDays, daysBefore]
    norm_num
    omega
  have hyear : (Date.ofDays n).year = if (5 * k + 2) / 153 < 10 then year else year + 1 := by
    rw [hdate]
    rfl
  rw [hyear]
  constructor
  · rcases Int.lt_trichotomy year (first - 1) with hbefore | hsame | hafter
    · have hdays := daysBefore_add_le hbefore
      omega
    · subst hsame
      split <;> omega
    · split <;> omega
  · rcases Int.lt_trichotomy year last with hbefore | hsame | hafter
    · split <;> omega
    · subst hsame
      split <;> omega
    · have hdays := daysBefore_add_le hafter
      omega

end PlatformAudit.Time
