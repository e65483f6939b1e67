import Mathlib.Data.List.Infix
import Mathlib.Data.List.Perm.Subperm
import Mathlib.Data.List.TakeWhile
import PlatformAudit.Proofs.Text.CaseFold
import PlatformAudit.Text.Lowercase

/-!
# Lower case and the parts of a text

The lower-case form of a text is put together from those of its characters, and the capital sigma
is the only character whose form depends on what stands around it. So the form of a part, taken
alone, is found again in the form of the whole, as long as every capital sigma in the part has the
same form in both.

What decides the form of a sigma are its **neighbours**, the nearest characters on both sides that
are not passed over. A part need not hold both. Its sigmas are **settled**
(`PlatformAudit.Text.SettlesSigmas`) if the neighbours that it does hold leave no choice, and then
the lower-case form of the part occurs in that of every text in which the part occurs
(`PlatformAudit.Text.lowercase_isInfix`). If some sigma is not settled, one more letter before or
behind the part is enough to change its form (`PlatformAudit.Text.exists_not_lowercase_isInfix`).
-/

namespace PlatformAudit.Text

variable {before after before' after' cs ds : List Char}

/-! ### Neighbours of a sigma -/

/-- A character that is passed over when the neighbours of a sigma are looked for. -/
def isPassedOver (c : Char) : Bool :=
  caseIgnorableRanges.covers c.toNat

/-- A character with case. -/
def isCased (c : Char) : Bool :=
  casedRanges.covers c.toNat

/-- The neighbour in a text that begins next to a sigma. -/
def neighbour? (cs : List Char) : Option Char :=
  cs.find? fun c => !isPassedOver c

theorem neighbour?_append (cs ds : List Char) :
    neighbour? (cs ++ ds) = (neighbour? cs).or (neighbour? ds) :=
  List.find?_append

theorem startsCased_eq (cs : List Char) : startsCased cs = (neighbour? cs).any isCased := by
  rw [neighbour?, List.find?_not_eq_head?_dropWhile]
  unfold startsCased isPassedOver
  cases cs.dropWhile fun c => caseIgnorableRanges.covers c.toNat <;> rfl

/-- **The form of a sigma is settled** by what stands before it, nearest first, and behind it: its
neighbour before it has no case, or its neighbour behind it has, or both are there. Otherwise what
is added before or behind can change the form. -/
def SettlesSigma (before after : List Char) : Prop :=
  (neighbour? before).any (fun c => !isCased c) = true ∨ (neighbour? after).any isCased = true ∨
    (neighbour? before).isSome = true ∧ (neighbour? after).isSome = true

instance (before after : List Char) : Decidable (SettlesSigma before after) :=
  inferInstanceAs (Decidable (_ ∨ _))

theorem SettlesSigma.lowerSigma_append (h : SettlesSigma before after)
    (before' after' : List Char) :
    lowerSigma (before ++ before') (after ++ after') = lowerSigma before after := by
  simp only [lowerSigma, startsCased_eq, neighbour?_append]
  rcases h with h | h | ⟨hbefore, hafter⟩
  · obtain ⟨c, hc, hcased⟩ := (Option.any_eq_true ..).mp h
    rw [Bool.not_eq_true'] at hcased
    simp [hc, hcased]
  · obtain ⟨c, hc, hcased⟩ := (Option.any_eq_true ..).mp h
    simp [hc, hcased]
  · obtain ⟨c, hc⟩ := Option.isSome_iff_exists.mp hbefore
    obtain ⟨d, hd⟩ := Option.isSome_iff_exists.mp hafter
    simp [hc, hd]

/-- A letter before or behind changes the form of a sigma that is not settled. -/
theorem lowerSigma_ne_of_not_settlesSigma (h : ¬SettlesSigma before after) {x : Char}
    (hpassed : isPassedOver x = false) (hcased : isCased x = true) :
    lowerSigma (before ++ [x]) after ≠ lowerSigma before after ∨
      lowerSigma before (after ++ [x]) ≠ lowerSigma before after := by
  simp only [SettlesSigma, not_or, not_and, Bool.not_eq_true] at h
  obtain ⟨hbefore, hafter, hboth⟩ := h
  have hx : neighbour? [x] = some x := List.find?_cons_of_pos (by simp [hpassed])
  cases hb : neighbour? before with
  | none =>
    -- the sigma is not final, and becomes so behind a letter
    left
    simp [lowerSigma, startsCased_eq, neighbour?_append, hb, hx, hcased, hafter]
  | some c =>
    -- the sigma is final, and is so no longer before a letter
    right
    have hc : isCased c = true := by simpa [hb] using hbefore
    have ha : neighbour? after = none := by simpa using hboth (by rw [hb]; rfl)
    simp [lowerSigma, startsCased_eq, neighbour?_append, hb, hx, hcased, hc, ha]

/-! ### Parts of a text -/

/-- The lower-case form of a part of a text, between what stands before it, nearest first, and
behind it. -/
def lowerBetween (before after : List Char) : List Char → List Char
  | [] => []
  | c :: cs =>
    (if c = 'Σ' then [lowerSigma before (cs ++ after)] else lowerChar c) ++
      lowerBetween (c :: before) after cs

theorem lowerFrom_append (before cs ds : List Char) :
    lowerFrom before (cs ++ ds) =
      lowerBetween before ds cs ++ lowerFrom (cs.reverse ++ before) ds := by
  induction cs generalizing before with
  | nil => rfl
  | cons c cs ih =>
    rw [List.cons_append, lowerFrom, ih, lowerBetween, List.append_assoc, List.reverse_cons,
      List.append_assoc, List.singleton_append]

theorem lowercase_append (cs ds : List Char) :
    lowercase (cs ++ ds) = lowerBetween [] ds cs ++ lowerFrom cs.reverse ds := by
  rw [lowercase, lowerFrom_append, List.append_nil]

theorem lowercase_eq (cs : List Char) : lowercase cs = lowerBetween [] [] cs := by
  have h := lowercase_append cs []
  rwa [List.append_nil, lowerFrom, List.append_nil] at h

theorem length_lowerBetween (before after before' after' cs : List Char) :
    (lowerBetween before after cs).length = (lowerBetween before' after' cs).length := by
  induction cs generalizing before before' with
  | nil => rfl
  | cons c cs ih =>
    rw [lowerBetween, lowerBetween, List.length_append, List.length_append,
      ih (c :: before) (c :: before')]
    split <;> rfl

/-- **A part has the same form in two surroundings if and only if its sigmas have.** -/
theorem lowerBetween_eq_iff :
    lowerBetween before after cs = lowerBetween before' after' cs ↔
      ∀ u v, cs = u ++ 'Σ' :: v →
        lowerSigma (u.reverse ++ before) (v ++ after) =
          lowerSigma (u.reverse ++ before') (v ++ after') := by
  induction cs generalizing before before' with
  | nil => simp [lowerBetween]
  | cons c cs ih =>
    have hhead : (lowerBetween before after (c :: cs) = lowerBetween before' after' (c :: cs)) ↔
        (c = 'Σ' → lowerSigma before (cs ++ after) = lowerSigma before' (cs ++ after')) ∧
          lowerBetween (c :: before) after cs = lowerBetween (c :: before') after' cs := by
      rw [lowerBetween, lowerBetween]
      by_cases hc : c = 'Σ'
      · rw [if_pos hc, if_pos hc, List.singleton_append, List.singleton_append, List.cons.injEq,
          forall_prop_of_true hc]
      · rw [if_neg hc, if_neg hc, List.append_cancel_left_eq, forall_prop_of_false hc, true_and]
    rw [hhead, ih]
    constructor
    · rintro ⟨hfirst, hrest⟩ u v huv
      cases u with
      | nil =>
        obtain ⟨rfl, rfl⟩ := List.cons.inj huv
        exact hfirst rfl
      | cons d u =>
        obtain ⟨rfl, rfl⟩ := List.cons.inj huv
        simpa using hrest u v rfl
    · intro h
      refine ⟨?_, fun u v huv => ?_⟩
      · rintro rfl
        exact h [] cs rfl
      · simpa using h (c :: u) v (by rw [huv]; rfl)

/-! ### Plain letters -/

/-- Of the characters of ASCII only the capitals are moved. -/
theorem lowerChar_of_ascii {c : Char} (h : c.toNat < 128) : lowerChar c = [asciiLower c] := by
  have hbeyond : lowerRuns.tail.all (fun r => 128 ≤ r.first) = true := by decide +kernel
  have hnone : lowerRuns.tail.find? (·.moves c.toNat) = none := by
    refine List.find?_eq_none.mpr fun r hr hmoves => ?_
    have hfirst : 128 ≤ r.first := by simpa using List.all_eq_true.mp hbeyond r hr
    have hfrom : r.first ≤ c.toNat := (CaseRun.moves_iff.mp hmoves).1
    omega
  have hruns : lowerRuns = ⟨0x41, 0x5A, 1, 32⟩ :: lowerRuns.tail := rfl
  have hdotted : c ≠ 'İ' := by
    rintro rfl
    exact absurd h (by decide)
  rw [lowerChar, if_neg hdotted, List.singleton_inj, ← Char.toNat_inj, toNat_asciiLower,
    CaseRun.apply, hruns]
  by_cases hcapital : 65 ≤ c.toNat ∧ c.toNat ≤ 90
  · have hmoves : CaseRun.moves ⟨0x41, 0x5A, 1, 32⟩ c.toNat = true :=
      CaseRun.moves_iff.mpr ⟨hcapital.1, hcapital.2, Nat.mod_one _⟩
    rw [List.find?_cons_of_pos (by exact hmoves), if_pos hcapital]
    have hvalid : (c.toNat + 32).isValidChar := .inl (by omega)
    exact toNat_ofNat_of_isValidChar hvalid
  · have hmoves : ¬CaseRun.moves ⟨0x41, 0x5A, 1, 32⟩ c.toNat = true := by
      intro hmoves
      obtain ⟨hfrom, hto, -⟩ := CaseRun.moves_iff.mp hmoves
      exact hcapital ⟨hfrom, hto⟩
    rw [List.find?_cons_of_neg (by exact hmoves), hnone, if_neg hcapital]

/-- The lower-case form of a text of ASCII. -/
theorem lowercase_of_ascii (h : IsAscii cs) : lowercase cs = cs.map asciiLower := by
  have hfrom (before : List Char) : lowerFrom before cs = cs.map asciiLower := by
    induction cs generalizing before with
    | nil => rfl
    | cons c cs ih =>
      obtain ⟨hc, hcs⟩ := List.forall_mem_cons.mp h
      have hne : c ≠ 'Σ' := by
        rintro rfl
        exact absurd hc (by decide)
      rw [lowerFrom, if_neg hne, lowerChar_of_ascii hc, ih hcs, List.map_cons,
        List.singleton_append]
  exact hfrom []

/-! ### Settled texts -/

/-- **Every capital sigma of a text is settled** by the text itself. -/
def SettlesSigmas (cs : List Char) : Prop :=
  ∀ u v, cs = u ++ 'Σ' :: v → SettlesSigma u.reverse v

theorem settlesSigmas_iff :
    SettlesSigmas cs ↔ ∀ i < cs.length, cs[i]? = some 'Σ' →
      SettlesSigma (cs.take i).reverse (cs.drop (i + 1)) := by
  constructor
  · intro h i hi hsigma
    refine h _ _ ?_
    rw [← Option.some.inj ((List.getElem?_eq_getElem hi).symm.trans hsigma),
      List.cons_getElem_drop_succ, List.take_append_drop]
  · rintro h u v rfl
    have hi : u.length < (u ++ 'Σ' :: v).length := by simp
    simpa using h u.length hi (by simp)

instance (cs : List Char) : Decidable (SettlesSigmas cs) :=
  decidable_of_iff _ settlesSigmas_iff.symm

/-- **The lower-case form of a settled text occurs wherever the text does.** -/
theorem lowercase_isInfix (h : SettlesSigmas cs) (hds : cs <:+: ds) :
    lowercase cs <:+: lowercase ds := by
  obtain ⟨before, after, rfl⟩ := hds
  have hpart : lowerBetween before.reverse after cs = lowercase cs := by
    rw [lowercase_eq]
    refine lowerBetween_eq_iff.mpr fun u v huv => ?_
    rw [(h u v huv).lowerSigma_append, List.append_nil, List.append_nil]
  refine ⟨lowerBetween [] (cs ++ after) before, lowerFrom (cs.reverse ++ before.reverse) after, ?_⟩
  rw [List.append_assoc before, lowercase_append before, lowerFrom_append, hpart, List.append_assoc]

theorem eq_of_infix_cons {α : Type} {xs ys : List α} {y : α} (h : xs <:+: y :: ys)
    (hlength : xs.length = ys.length) (hhead : xs.head? ≠ some y) : xs = ys := by
  rcases List.infix_cons_iff.mp h with hstart | hoccurs
  · cases xs with
    | nil => exact (List.length_eq_zero_iff.mp hlength.symm).symm
    | cons x xs =>
      obtain ⟨rfl, -⟩ := List.cons_prefix_cons.mp hstart
      exact absurd rfl hhead
  · exact hoccurs.eq_of_length hlength

theorem eq_of_infix_concat {α : Type} {xs ys : List α} {y : α} (h : xs <:+: ys ++ [y])
    (hlength : xs.length = ys.length) (hlast : xs.getLast? ≠ some y) : xs = ys := by
  have hreverse : xs.reverse <:+: y :: ys.reverse := by
    simpa using List.reverse_infix.mpr h
  refine List.reverse_injective (eq_of_infix_cons hreverse (by simpa using hlength) ?_)
  rwa [List.head?_reverse]

/-- Letters that can be added to a text. -/
def addedLetters : List Char :=
  ['a', 'b', 'c']

theorem exists_addedLetter_ne (c? d? : Option Char) :
    ∃ x ∈ addedLetters, c? ≠ some x ∧ d? ≠ some x := by
  by_contra h
  -- there are three letters and only two places
  have hsubset : addedLetters.map some ⊆ [c?, d?] := by
    intro c hc
    obtain ⟨x, hx, rfl⟩ := List.mem_map.mp hc
    by_contra hout
    simp only [List.mem_cons, List.not_mem_nil, or_false, not_or] at hout
    exact h ⟨x, hx, Ne.symm hout.1, Ne.symm hout.2⟩
  have hnodup : (addedLetters.map some).Nodup := by decide
  have hlength : 3 ≤ 2 := (List.subperm_of_subset hnodup hsubset).length_le
  omega

theorem addedLetter_spec {x : Char} (h : x ∈ addedLetters) :
    isPassedOver x = false ∧ isCased x = true ∧ x ≠ 'Σ' ∧ lowerChar x = [x] := by
  have hascii : isPassedOver x = false ∧ isCased x = true ∧ x ≠ 'Σ' ∧ x.toNat < 128 ∧
      asciiLower x = x := by
    simp only [addedLetters, List.mem_cons, List.not_mem_nil, or_false] at h
    rcases h with rfl | rfl | rfl <;> decide
  obtain ⟨hpassed, hcased, hne, hlt, hlower⟩ := hascii
  refine ⟨hpassed, hcased, hne, ?_⟩
  rw [lowerChar_of_ascii hlt, hlower]

theorem lowercase_cons {x : Char} (h : x ∈ addedLetters) (cs : List Char) :
    lowercase (x :: cs) = x :: lowerBetween [x] [] cs := by
  obtain ⟨-, -, hne, hlower⟩ := addedLetter_spec h
  rw [lowercase_eq, lowerBetween, if_neg hne, hlower, List.singleton_append]

theorem lowercase_concat {x : Char} (h : x ∈ addedLetters) (cs : List Char) :
    lowercase (cs ++ [x]) = lowerBetween [] [x] cs ++ [x] := by
  obtain ⟨-, -, hne, hlower⟩ := addedLetter_spec h
  rw [lowercase_append, lowerFrom, if_neg hne, hlower, lowerFrom, List.append_nil]

/-- One sigma of another form is enough for another form of the text. -/
theorem lowercase_ne_lowerBetween {u v : List Char} (huv : cs = u ++ 'Σ' :: v)
    (hne : lowerSigma (u.reverse ++ before) (v ++ after) ≠ lowerSigma u.reverse v) :
    lowercase cs ≠ lowerBetween before after cs := by
  intro heq
  rw [lowercase_eq] at heq
  have hsigma := lowerBetween_eq_iff.mp heq u v huv
  rw [List.append_nil, List.append_nil] at hsigma
  exact hne hsigma.symm

/-- **A text that is not settled loses its lower-case form next to some letter.** -/
theorem exists_not_lowercase_isInfix (h : ¬SettlesSigmas cs) :
    ∃ x ∈ addedLetters, ¬lowercase cs <:+: lowercase (x :: cs) ∨
      ¬lowercase cs <:+: lowercase (cs ++ [x]) := by
  simp only [SettlesSigmas, not_forall] at h
  obtain ⟨u, v, huv, hnot⟩ := h
  -- with a letter at neither end of the form, the form could only occur next to the letter
  obtain ⟨x, hx, hhead, hlast⟩ :=
    exists_addedLetter_ne (lowercase cs).head? (lowercase cs).getLast?
  obtain ⟨hpassed, hcased, -, -⟩ := addedLetter_spec hx
  refine ⟨x, hx, ?_⟩
  rcases lowerSigma_ne_of_not_settlesSigma hnot hpassed hcased with hne | hne
  · left
    intro hoccurs
    rw [lowercase_cons hx] at hoccurs
    have heq := eq_of_infix_cons hoccurs (by rw [lowercase_eq, length_lowerBetween]) hhead
    exact lowercase_ne_lowerBetween huv (by rwa [List.append_nil]) heq
  · right
    intro hoccurs
    rw [lowercase_concat hx] at hoccurs
    have heq := eq_of_infix_concat hoccurs (by rw [lowercase_eq, length_lowerBetween]) hlast
    exact lowercase_ne_lowerBetween huv (by rwa [List.append_nil]) heq

end PlatformAudit.Text
