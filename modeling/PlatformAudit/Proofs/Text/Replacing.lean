import Mathlib.Data.List.Infix
import PlatformAudit.Text.Segment

/-!
# Replacing marks in a text

`PlatformAudit.Text.replaceAll` replaces a mark wherever it stands in a text. If the text
was itself put together, some of these marks may have been meant to be replaced and others
may have come in with the parts. A text with **gaps** keeps the two apart: a gap is a mark
that is meant, and every character counts as text
(`PlatformAudit.Text.filled`).

The marks considered here begin with a character that does not occur in them a second
time, so that two of them never overlap. For such a mark
`PlatformAudit.Text.replaceAll_filled_iff` says when replacing it fills in the gaps and
nothing else: either no mark stands in the text beyond those that are meant, or the mark
is replaced by itself.
-/

namespace PlatformAudit.Text

/-! ### Replacing step by step -/

section Steps

variable {old new cs : List Char} {c : Char}

theorem replaceFrom_eq_drop (old new : List Char) (n : ℕ) (cs : List Char) :
    replaceFrom old new n cs = replaceAll old new (cs.drop n) := by
  induction cs generalizing n with
  | nil =>
    rw [List.drop_nil, replaceAll]
    cases n <;> rfl
  | cons c cs ih =>
    cases n with
    | zero => rfl
    | succ n => rw [replaceFrom, ih, List.drop_succ_cons]

theorem replaceAll_append (h : old ≠ []) (new cs : List Char) :
    replaceAll old new (old ++ cs) = new ++ replaceAll old new cs := by
  obtain ⟨o, os, rfl⟩ := List.exists_cons_of_ne_nil h
  have hprefix : (o :: os).isPrefixOf (o :: (os ++ cs)) = true :=
    List.isPrefixOf_iff_prefix.mpr (List.prefix_append (o :: os) cs)
  rw [List.cons_append, replaceAll, replaceFrom, if_pos hprefix, replaceFrom_eq_drop,
    List.length_cons, Nat.add_sub_cancel, List.drop_left]

theorem replaceAll_cons (h : ¬old <+: c :: cs) (new : List Char) :
    replaceAll old new (c :: cs) = c :: replaceAll old new cs := by
  rw [replaceAll, replaceFrom, if_neg (mt List.isPrefixOf_iff_prefix.mp h), replaceAll]

/-- Where the first character of a text does not stand, nothing is replaced. -/
theorem replaceAll_append_of_not_mem {b : Char} {w : List Char} (h : b ∉ w)
    (old new cs : List Char) :
    replaceAll (b :: old) new (w ++ cs) = w ++ replaceAll (b :: old) new cs := by
  induction w with
  | nil => rfl
  | cons a w ih =>
    obtain ⟨hne, hw⟩ := not_or.mp (mt List.mem_cons.mpr h)
    rw [List.cons_append, replaceAll_cons, ih hw, List.cons_append]
    exact fun hprefix => hne (List.cons_prefix_cons.mp hprefix).1

/-- What holds of a text as soon as it holds of what follows the mark that it begins with, or of
what follows its first character if it begins with none, holds of every text. -/
theorem induction_on_marks {P : List Char → Prop} {marks : List (List Char)} (hmarks : [] ∉ marks)
    (nil : P []) (mark : ∀ m ∈ marks, ∀ cs, P cs → P (m ++ cs))
    (char : ∀ c cs, (∀ m ∈ marks, ¬m <+: c :: cs) → P cs → P (c :: cs)) (cs : List Char) :
    P cs := by
  induction hn : cs.length using Nat.strong_induction_on generalizing cs with
  | _ n ih =>
    by_cases hbegins : ∃ m ∈ marks, m <+: cs
    · obtain ⟨m, hm, rest, rfl⟩ := hbegins
      have hpos : 0 < m.length := List.length_pos_of_ne_nil fun hnil => hmarks (hnil ▸ hm)
      rw [List.length_append] at hn
      exact mark m hm rest (ih rest.length (by omega) rest rfl)
    · cases cs with
      | nil => exact nil
      | cons c cs =>
        refine char c cs (fun m hm hprefix => hbegins ⟨m, hm, hprefix⟩) ?_
        exact ih cs.length (by simp [← hn]) cs rfl

theorem induction_on_mark {P : List Char → Prop} (hold : old ≠ []) (nil : P [])
    (mark : ∀ cs, P cs → P (old ++ cs)) (char : ∀ c cs, ¬old <+: c :: cs → P cs → P (c :: cs))
    (cs : List Char) : P cs := by
  have hmarks : [] ∉ [old] := fun hmem => hold (List.mem_singleton.mp hmem).symm
  refine induction_on_marks hmarks nil (fun m hm cs ih => ?_) (fun c cs hnone ih => ?_) cs
  · obtain rfl := List.mem_singleton.mp hm
    exact mark cs ih
  · exact char c cs (hnone old List.mem_cons_self) ih

/-- To replace a text by itself changes nothing. -/
theorem replaceAll_self (h : old ≠ []) (cs : List Char) : replaceAll old old cs = cs := by
  induction cs using induction_on_mark h with
  | nil => rfl
  | mark cs ih => rw [replaceAll_append h, ih]
  | char c cs hprefix ih => rw [replaceAll_cons hprefix, ih]

end Steps

/-! ### Occurrences -/

/-- The number of places at which a part stands in a text. -/
def occurrences (part cs : List Char) : ℕ :=
  cs.tails.countP part.isPrefixOf

section Occurrences

variable {b c : Char} {m w cs : List Char}

theorem occurrences_nil (b : Char) (m : List Char) : occurrences (b :: m) [] = 0 := rfl

theorem occurrences_cons_of_pos (h : m <+: c :: cs) :
    occurrences m (c :: cs) = occurrences m cs + 1 := by
  rw [occurrences, List.tails_cons, List.countP_cons_of_pos (List.isPrefixOf_iff_prefix.mpr h),
    occurrences]

theorem occurrences_cons_of_neg (h : ¬m <+: c :: cs) :
    occurrences m (c :: cs) = occurrences m cs := by
  rw [occurrences, List.tails_cons, List.countP_cons_of_neg (mt List.isPrefixOf_iff_prefix.mp h),
    occurrences]

/-- Where the first character of a mark does not stand, no mark begins. -/
theorem occurrences_append_of_not_mem (h : b ∉ w) (m cs : List Char) :
    occurrences (b :: m) (w ++ cs) = occurrences (b :: m) cs := by
  induction w with
  | nil => rfl
  | cons a w ih =>
    obtain ⟨hne, hw⟩ := not_or.mp (mt List.mem_cons.mpr h)
    rw [List.cons_append, occurrences_cons_of_neg, ih hw]
    exact fun hprefix => hne (List.cons_prefix_cons.mp hprefix).1

/-- A mark that stands in a text stands after what does not have its first character. -/
theorem infix_of_infix_append (h : b ∉ w) (hmark : b :: m <:+: w ++ cs) : b :: m <:+: cs := by
  induction w with
  | nil => exact hmark
  | cons a w ih =>
    obtain ⟨hne, hw⟩ := not_or.mp (mt List.mem_cons.mpr h)
    rw [List.cons_append, List.infix_cons_iff] at hmark
    exact ih hw (hmark.resolve_left fun hprefix => hne (List.cons_prefix_cons.mp hprefix).1)

/-- A mark is counted once, as no other begins inside it. -/
theorem occurrences_mark_append (h : b ∉ m) (cs : List Char) :
    occurrences (b :: m) (b :: m ++ cs) = occurrences (b :: m) cs + 1 := by
  have hprefix : b :: m <+: b :: (m ++ cs) := List.prefix_append (b :: m) cs
  rw [List.cons_append, occurrences_cons_of_pos hprefix, occurrences_append_of_not_mem h]

/-- **Every mark that is replaced adds the same to the length.** -/
theorem length_replaceAll (h : b ∉ m) (new cs : List Char) :
    (replaceAll (b :: m) new cs).length + occurrences (b :: m) cs * (b :: m).length =
      cs.length + occurrences (b :: m) cs * new.length := by
  induction cs using induction_on_mark (List.cons_ne_nil b m) with
  | nil =>
    rw [occurrences_nil, Nat.zero_mul, Nat.zero_mul]
    rfl
  | mark cs ih =>
    rw [replaceAll_append (List.cons_ne_nil b m), occurrences_mark_append h, List.length_append,
      List.length_append, Nat.succ_mul, Nat.succ_mul]
    omega
  | char c cs hprefix ih =>
    rw [replaceAll_cons hprefix, occurrences_cons_of_neg hprefix,
      List.length_cons (a := c), List.length_cons (a := c)]
    omega

end Occurrences

/-! ### Texts with gaps -/

/-- A text with gaps, all filled with the same. -/
def filled (filling : List Char) (gapped : List (Option Char)) : List Char :=
  gapped.flatMap fun item => item.elim filling ([·])

section Gaps

variable {b c : Char} {m w e : List Char} {gapped : List (Option Char)}

theorem filled_gap (e : List Char) (gapped : List (Option Char)) :
    filled e (none :: gapped) = e ++ filled e gapped :=
  List.flatMap_cons ..

theorem filled_char (e : List Char) (c : Char) (gapped : List (Option Char)) :
    filled e (some c :: gapped) = c :: filled e gapped :=
  List.flatMap_cons ..

theorem filled_append (e : List Char) (gapped more : List (Option Char)) :
    filled e (gapped ++ more) = filled e gapped ++ filled e more :=
  List.flatMap_append ..

theorem filled_map_some (e cs : List Char) : filled e (cs.map some) = cs := by
  induction cs with
  | nil => rfl
  | cons c cs ih => rw [List.map_cons, filled_char, ih]

/-- Every gap adds the same to the length. -/
theorem length_filled (e e' : List Char) (gapped : List (Option Char)) :
    (filled e gapped).length + gapped.count none * e'.length =
      (filled e' gapped).length + gapped.count none * e.length := by
  induction gapped with
  | nil =>
    rw [List.count_nil, Nat.zero_mul, Nat.zero_mul]
    rfl
  | cons item gapped ih =>
    cases item with
    | none =>
      rw [filled_gap, filled_gap, List.count_cons_self, List.length_append, List.length_append,
        Nat.succ_mul, Nat.succ_mul]
      omega
    | some c =>
      rw [filled_char, filled_char, List.count_cons_of_ne (by simp), List.length_cons,
        List.length_cons]
      omega

/-- A text filled with marks has at least the marks that it was filled with. -/
theorem count_le_occurrences (h : b ∉ m) (gapped : List (Option Char)) :
    gapped.count none ≤ occurrences (b :: m) (filled (b :: m) gapped) := by
  induction gapped with
  | nil => exact Nat.zero_le _
  | cons item gapped ih =>
    cases item with
    | none =>
      rw [filled_gap, occurrences_mark_append h, List.count_cons_self]
      exact Nat.succ_le_succ ih
    | some c =>
      rw [filled_char, List.count_cons_of_ne (by simp)]
      by_cases hprefix : b :: m <+: c :: filled (b :: m) gapped
      · rw [occurrences_cons_of_pos hprefix]
        exact Nat.le_succ_of_le ih
      · rwa [occurrences_cons_of_neg hprefix]

/-- If the text itself does not have the first character of the mark, it has no other marks. -/
theorem occurrences_filled_of_not_mem (h : b ∉ m) (hb : some b ∉ gapped) :
    occurrences (b :: m) (filled (b :: m) gapped) = gapped.count none := by
  induction gapped with
  | nil => rfl
  | cons item gapped ih =>
    obtain ⟨hitem, hrest⟩ := not_or.mp (mt List.mem_cons.mpr hb)
    cases item with
    | none => rw [filled_gap, occurrences_mark_append h, List.count_cons_self, ih hrest]
    | some c =>
      rw [filled_char, occurrences_cons_of_neg, List.count_cons_of_ne (by simp), ih hrest]
      exact fun hprefix => hitem (congrArg some (List.cons_prefix_cons.mp hprefix).1)

/-- What begins a text filled with marks, and does not have their first character, reaches into no
gap, so it begins the text whatever is filled in. -/
theorem prefix_filled_of_not_mem (hw : b ∉ w) (h : w <+: filled (b :: m) gapped) (e : List Char) :
    w <+: filled e gapped := by
  induction w generalizing gapped with
  | nil => exact List.nil_prefix
  | cons a w ih =>
    obtain ⟨hne, hw⟩ := not_or.mp (mt List.mem_cons.mpr hw)
    cases gapped with
    | nil => exact absurd (List.prefix_nil.mp h) (List.cons_ne_nil a w)
    | cons item gapped =>
      cases item with
      | none =>
        rw [filled_gap, List.cons_append] at h
        exact absurd (List.cons_prefix_cons.mp h).1.symm hne
      | some c =>
        rw [filled_char] at h ⊢
        obtain ⟨rfl, hrest⟩ := List.cons_prefix_cons.mp h
        exact List.cons_prefix_cons.mpr ⟨rfl, ih hw hrest⟩

/-- If a text with gaps begins with a mark that is not meant, then to replace marks fills in the
gaps only if it replaces them by themselves. -/
theorem eq_mark_of_stray (h : b ∉ m) (hstray : b :: m <+: c :: filled (b :: m) gapped)
    (heq : replaceAll (b :: m) e (c :: filled (b :: m) gapped) = c :: filled e gapped) :
    e = b :: m := by
  have hmark : b :: m <+: c :: filled e gapped := by
    obtain ⟨rfl, hrest⟩ := List.cons_prefix_cons.mp hstray
    exact List.cons_prefix_cons.mpr ⟨rfl, prefix_filled_of_not_mem h hrest e⟩
  have hlength : e.length = (b :: m).length := by
    -- there are more marks than gaps, and the text is as long as if there were not
    have hreplaced := length_replaceAll h e (c :: filled (b :: m) gapped)
    have hfilled := length_filled e (b :: m) gapped
    have hcount := count_le_occurrences h gapped
    obtain ⟨more, hmore⟩ := Nat.exists_eq_add_of_le hcount
    have hmarks : occurrences (b :: m) (c :: filled (b :: m) gapped) =
        gapped.count none + (more + 1) := by
      rw [occurrences_cons_of_pos hstray, hmore, Nat.add_assoc]
    rw [heq, hmarks, List.length_cons (a := c), List.length_cons (a := c),
      Nat.add_mul _ (more + 1), Nat.add_mul _ (more + 1)] at hreplaced
    have hsame : (more + 1) * (b :: m).length = (more + 1) * e.length := by omega
    exact (Nat.eq_of_mul_eq_mul_left (Nat.succ_pos more) hsame).symm
  have he : e <+: c :: filled e gapped := by
    obtain ⟨rest, hrest⟩ := hstray
    rw [← heq, ← hrest, replaceAll_append (List.cons_ne_nil b m)]
    exact List.prefix_append _ _
  exact (List.prefix_of_prefix_length_le he hmark hlength.le).eq_of_length hlength

/-- **Replacing marks fills in the gaps and nothing else** if and only if the marks are replaced by
themselves or no mark stands in the text beyond those that are meant. -/
theorem replaceAll_filled_iff (h : b ∉ m) (e : List Char) (gapped : List (Option Char)) :
    replaceAll (b :: m) e (filled (b :: m) gapped) = filled e gapped ↔
      e = b :: m ∨ occurrences (b :: m) (filled (b :: m) gapped) = gapped.count none := by
  induction gapped with
  | nil => exact iff_of_true rfl (.inr rfl)
  | cons item gapped ih =>
    cases item with
    | none =>
      rw [filled_gap, filled_gap, replaceAll_append (List.cons_ne_nil b m),
        List.append_right_inj, ih, occurrences_mark_append h, List.count_cons_self, Nat.succ_inj]
    | some c =>
      rw [filled_char, filled_char, List.count_cons_of_ne (by simp)]
      by_cases hprefix : b :: m <+: c :: filled (b :: m) gapped
      · constructor
        · exact fun heq => .inl (eq_mark_of_stray h hprefix heq)
        · rintro (rfl | hcount)
          · exact replaceAll_self (List.cons_ne_nil b m) _
          · have hle := count_le_occurrences h gapped
            rw [occurrences_cons_of_pos hprefix] at hcount
            omega
      · rw [replaceAll_cons hprefix, List.cons.injEq, eq_self_iff_true, true_and, ih,
          occurrences_cons_of_neg hprefix]

end Gaps

end PlatformAudit.Text
