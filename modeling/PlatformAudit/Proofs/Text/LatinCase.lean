import PlatformAudit.Proofs.Text.Parts
import PlatformAudit.Text.Ascii

/-!
# Latin letters in capital and small form

Two texts are the same up to the case of Latin letters if they are the same once all
letters are small (`PlatformAudit.Text.sameIgnoringCase_iff`). The small form changes
nothing but capitals, so it makes no difference to trimming, nor to a cut at a character
that is no letter.
-/

namespace PlatformAudit.Text

variable {c d : Char} {cs ds es : List Char}

/-! ### Single characters -/

theorem toNat_ofNat_of_isValidChar {n : ℕ} (h : n.isValidChar) : (Char.ofNat n).toNat = n := by
  rw [Char.ofNat, dif_pos h]
  rfl

/-- Small letters stand 32 places behind their capitals. -/
theorem toNat_asciiLower (c : Char) :
    (asciiLower c).toNat = if 65 ≤ c.toNat ∧ c.toNat ≤ 90 then c.toNat + 32 else c.toNat := by
  have hcapital : ('A' ≤ c ∧ c ≤ 'Z') ↔ 65 ≤ c.toNat ∧ c.toNat ≤ 90 := Iff.rfl
  rw [asciiLower]
  split
  next h =>
    have hn := hcapital.mp h
    rw [if_pos hn, toNat_ofNat_of_isValidChar (.inl (by omega))]
  next h => rw [if_neg (mt hcapital.mpr h)]

/-- A character that is no Latin letter is the small form of itself only. -/
theorem asciiLower_eq_iff (h : d.toNat < 65 ∨ 90 < d.toNat ∧ d.toNat < 97 ∨ 122 < d.toNat) :
    asciiLower c = d ↔ c = d := by
  rw [← Char.toNat_inj, ← Char.toNat_inj, toNat_asciiLower]
  split
  next hc => omega
  next => exact Iff.rfl

theorem asciiLower_asciiLower (c : Char) : asciiLower (asciiLower c) = asciiLower c := by
  rw [← Char.toNat_inj, toNat_asciiLower, toNat_asciiLower]
  split
  next => exact if_neg (by omega)
  next => rfl

theorem isBlank_asciiLower (c : Char) : isBlank (asciiLower c) = isBlank c := by
  -- neither a capital nor a small letter is white space
  have hletter (n : ℕ) (h : 65 ≤ n ∧ n ≤ 122) : blankRanges.covers n = false := by
    simp only [blankRanges, CodeRanges.covers]
    grind
  rw [isBlank, isBlank, toNat_asciiLower]
  split
  next hc => rw [hletter _ (by omega), hletter _ (by omega)]
  next => rfl

theorem asciiLower_lt (h : c.toNat < 128) : (asciiLower c).toNat < 128 := by
  rw [toNat_asciiLower]
  split <;> omega

theorem utf8Size_asciiLower (c : Char) : (asciiLower c).utf8Size = c.utf8Size := by
  have hsize (d : Char) (hd : d.toNat < 128) : d.utf8Size = 1 :=
    Char.utf8Size_eq_one_iff.mpr (UInt32.le_iff_toNat_le.mpr (Nat.le_of_lt_succ hd))
  rcases Nat.lt_or_ge c.toNat 128 with h | h
  · rw [hsize c h, hsize _ (asciiLower_lt h)]
  · have hsame : asciiLower c = c := by
      rw [← Char.toNat_inj, toNat_asciiLower, if_neg (by omega)]
    rw [hsame]

/-! ### Texts -/

/-- A text of ASCII. -/
def IsAscii (cs : List Char) : Prop :=
  ∀ c ∈ cs, c.toNat < 128

instance (cs : List Char) : Decidable (IsAscii cs) :=
  List.decidableBAll (fun c : Char => c.toNat < 128) cs

/-- **Texts are the same up to case if their small forms are the same.** -/
theorem sameIgnoringCase_iff :
    sameIgnoringCase cs ds = true ↔ cs.map asciiLower = ds.map asciiLower := by
  induction cs generalizing ds with
  | nil => cases ds <;> simp [sameIgnoringCase]
  | cons c cs ih =>
    cases ds with
    | nil => simp [sameIgnoringCase]
    | cons d ds =>
      simp only [sameIgnoringCase, sameLetter, Bool.and_eq_true, decide_eq_true_eq, ih,
        List.map_cons, List.cons.injEq]

theorem map_asciiLower_map_asciiLower (cs : List Char) :
    (cs.map asciiLower).map asciiLower = cs.map asciiLower := by
  rw [List.map_map]
  exact List.map_congr_left fun c _ => asciiLower_asciiLower c

theorem trim_map_asciiLower (cs : List Char) :
    trim (cs.map asciiLower) = (trim cs).map asciiLower := by
  have hblank : isBlank ∘ asciiLower = isBlank := funext isBlank_asciiLower
  simp only [trim, trimEnd, trimStart, List.dropWhile_map, ← List.map_reverse, hblank]

/-- A cut at characters that are no letters can be made before or after. -/
theorem afterLastOf_map_asciiLower {p : Char → Bool} (h : ∀ c, p (asciiLower c) = p c)
    (cs : List Char) : afterLastOf p (cs.map asciiLower) = (afterLastOf p cs).map asciiLower := by
  simp only [afterLastOf, ← List.map_reverse, List.takeWhile_map, Function.comp_def, h]

end PlatformAudit.Text
