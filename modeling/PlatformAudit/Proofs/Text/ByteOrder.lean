import Mathlib.Data.List.Lex
import Mathlib.Data.String.Basic
import PlatformAudit.Risk.Finding

/-!
# Texts in the order of their bytes

Texts are compared character by character. Whoever compares them byte by byte comes to the
same order: the encoding of characters was made so. Its reasons are two. A character with
more bytes has a greater first byte than any with fewer, so no comparison ever runs into
the end of a character; and among characters with equally many bytes the bytes are digits,
the most significant first (`PlatformAudit.Text.byteValuesOf_append_lt`).

So the bytes of a text are a strictly monotone function of it
(`PlatformAudit.Text.byteValues_strictMono`), and comparing texts is comparing their bytes
(`PlatformAudit.Text.compare_eq_lt_iff_byteValues`).
-/

namespace PlatformAudit.Text

/-! ### Characters -/

theorem toNat_val_lt (c : Char) : c.val.toNat < 0x110000 := by
  have hvalid : c.val.toNat < 0xD800 ∨ 0xDFFF < c.val.toNat ∧ c.val.toNat < 0x110000 := c.valid
  omega

/-- The values of the bytes of a character. -/
def byteValuesOf (c : Char) : List ℕ :=
  (String.utf8EncodeChar c).map UInt8.toNat

/-- **The bytes of a character are the digits of its code to the base 64**, the first of them with
a mark that tells how many there are. -/
theorem byteValuesOf_eq {c : Char} {code : ℕ} (h : c.val.toNat = code) :
    byteValuesOf c =
      if code < 0x80 then [code]
      else if code < 0x800 then [192 + code / 64, 128 + code % 64]
      else if code < 0x10000 then
        [224 + code / 64 / 64, 128 + code / 64 % 64, 128 + code % 64]
      else
        [240 + code / 64 / 64 / 64, 128 + code / 64 / 64 % 64, 128 + code / 64 % 64,
          128 + code % 64] := by
  have hcode := toNat_val_lt c
  rw [h] at hcode
  rw [byteValuesOf, String.utf8EncodeChar, h]
  simp only [← Nat.lt_succ_iff, Nat.succ_eq_add_one, Nat.reduceAdd]
  repeat' split
  all_goals
    simp only [List.map_cons, List.map_nil, UInt8.toNat_ofNat', List.cons.injEq, and_true]
    omega

/-- The mark of the first byte is another than that of all bytes after it. -/
theorem byteValuesOf_eq_cons (c : Char) :
    ∃ b bs, byteValuesOf c = b :: bs ∧ (b < 128 ∨ 192 ≤ b) ∧ ∀ b' ∈ bs, 128 ≤ b' ∧ b' < 192 := by
  rw [byteValuesOf_eq rfl]
  repeat' split
  all_goals
    refine ⟨_, _, rfl, by omega, fun b' hb' => ?_⟩
    grind

/-- **A smaller character has smaller bytes**, whatever follows it. -/
theorem byteValuesOf_append_lt {c d : Char} (h : c < d) (xs ys : List ℕ) :
    byteValuesOf c ++ xs < byteValuesOf d ++ ys := by
  obtain ⟨v, hv⟩ : ∃ v, c.val.toNat = v := ⟨_, rfl⟩
  obtain ⟨w, hw⟩ : ∃ w, d.val.toNat = w := ⟨_, rfl⟩
  have hlt : v < w := by
    rw [← hv, ← hw]
    exact h
  have hcode : w < 0x110000 := hw ▸ toNat_val_lt d
  rw [byteValuesOf_eq hv, byteValuesOf_eq hw]
  -- lengths that differ are told by the first byte, and the others by a digit
  repeat' split
  all_goals
    simp only [List.cons_append, List.nil_append, List.cons_lt_cons_iff]
    omega

/-! ### Texts -/

section Texts

variable {cs ds : List Char}

theorem flatMap_byteValuesOf_lt (h : cs < ds) :
    cs.flatMap byteValuesOf < ds.flatMap byteValuesOf := by
  induction cs generalizing ds with
  | nil =>
    cases ds with
    | nil => exact absurd h (List.lt_irrefl [])
    | cons d ds =>
      obtain ⟨b, bs, hd, -⟩ := byteValuesOf_eq_cons d
      rw [List.flatMap_nil, List.flatMap_cons, hd]
      exact List.nil_lt_cons _ _
  | cons c cs ih =>
    cases ds with
    | nil => exact absurd h (List.not_lt_nil _)
    | cons d ds =>
      rw [List.flatMap_cons, List.flatMap_cons]
      rcases List.cons_lt_cons_iff.mp h with hcd | ⟨rfl, hrest⟩
      · exact byteValuesOf_append_lt hcd _ _
      · exact List.append_left_lt (ih hrest)

end Texts

/-- The values of the bytes of a text. -/
def byteValues (s : String) : List ℕ :=
  (Finding.bytesOf s).map UInt8.toNat

/-- **A smaller text has smaller bytes**, in lexicographic order. -/
theorem byteValues_strictMono : StrictMono byteValues := by
  intro s t h
  have hflat (s : String) : byteValues s = s.toList.flatMap byteValuesOf := List.map_flatMap ..
  rw [hflat, hflat]
  exact flatMap_byteValuesOf_lt (String.lt_iff_toList_lt.mp h)

/-- **Comparing texts is comparing their bytes.** -/
theorem compare_eq_lt_iff_byteValues {s t : String} :
    compare s t = .lt ↔ byteValues s < byteValues t := by
  have hlt : compare s t = .lt ↔ s < t := compareOfLessAndEq_eq_lt
  rw [hlt, byteValues_strictMono.lt_iff_lt]

end PlatformAudit.Text
