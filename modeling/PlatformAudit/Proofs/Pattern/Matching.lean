import PlatformAudit.Pattern.Expr
import PlatformAudit.Proofs.Pattern.Positions

/-!
# What a pattern matches

A match of a pattern is a part of a text, and whether a part is a match depends on what stands
before and after it, because conditions look at the neighbours of a position.
`PlatformAudit.Pattern.Expr.Matches` says this for every form of pattern, without mention of
positions or of how a match is found.

The function that computes with sets of positions agrees with it
(`PlatformAudit.Pattern.Expr.follows_reach`). So a pattern occurs in a text if and only if
some part of the text is a match (`PlatformAudit.Pattern.Expr.occurs_iff`).
-/

namespace PlatformAudit.Pattern

variable {σ β α : Type}

/-! ### Matches -/

/-- A number of parts one after the other, each of which satisfies `M` where it stands. -/
def Chained (M : List α → List α → List α → Prop) :
    (n : ℕ) → (before part after : List α) → Prop
  | 0, _, part, _ => part = []
  | n + 1, before, part, after => ∃ first rest, part = first ++ rest ∧
      M before first (rest ++ after) ∧ Chained M n (before ++ first) rest after

/-- The part that stands between `before` and `after` is a match. -/
def Expr.Matches (reading : Reading σ β α) : Expr σ β → (before part after : List α) → Prop
  | .empty, _, part, _ => part = []
  | .symbol s, _, part, _ => ∃ a, part = [a] ∧ reading.member s a
  | .boundary b, before, part, after => part = [] ∧ reading.holds b before.getLast? after.head?
  | .seq first second, before, part, after => ∃ p q, part = p ++ q ∧
      first.Matches reading before p (q ++ after) ∧ second.Matches reading (before ++ p) q after
  | .either left right, before, part, after =>
      left.Matches reading before part after ∨ right.Matches reading before part after
  | .many least greatest body, before, part, after =>
      ∃ more, (∀ g ∈ greatest, more ≤ g - least) ∧
        Chained (body.Matches reading) (least + more) before part after

/-! ### Parts by their positions -/

/-- The part of the text from one position to another satisfies `M` where it stands. -/
def Spans (text : List α) (M : List α → List α → List α → Prop) (i j : ℕ) : Prop :=
  ∃ before part after, text = before ++ (part ++ after) ∧ before.length = i ∧
    (before ++ part).length = j ∧ M before part after

section Spans

variable {text : List α} {M N : List α → List α → List α → Prop} {i j : ℕ}

theorem exists_split (hi : i ≤ text.length) :
    ∃ before after, text = before ++ after ∧ before.length = i :=
  ⟨text.take i, text.drop i, (List.take_append_drop i text).symm, List.length_take_of_le hi⟩

theorem spans_forward (text : List α) (M : List α → List α → List α → Prop) :
    Forward text.length (Spans text M) := by
  rintro i j ⟨before, part, after, rfl, rfl, rfl, -⟩ -
  simp only [List.length_append]
  omega

theorem spans_empty_iff (hi : i ≤ text.length) :
    Spans text (fun _ part _ => part = []) i j ↔ i = j := by
  constructor
  · rintro ⟨before, part, after, rfl, rfl, rfl, rfl⟩
    rw [List.append_nil]
  · rintro rfl
    obtain ⟨before, after, rfl, rfl⟩ := exists_split hi
    exact ⟨before, [], after, rfl, rfl, by rw [List.append_nil], rfl⟩

/-- Two parts one after the other meet at a position. -/
theorem spans_append_iff :
    Spans text (fun before part after => ∃ p q, part = p ++ q ∧ M before p (q ++ after) ∧
        N (before ++ p) q after) i j ↔
      ∃ k, Spans text M i k ∧ Spans text N k j := by
  constructor
  · rintro ⟨before, part, after, rfl, rfl, rfl, p, q, rfl, hp, hq⟩
    refine ⟨(before ++ p).length, ⟨before, p, q ++ after, ?_, rfl, rfl, hp⟩,
      ⟨before ++ p, q, after, ?_, rfl, ?_, hq⟩⟩ <;> simp only [List.append_assoc]
  · rintro ⟨k, ⟨before, p, rest, rfl, rfl, rfl, hp⟩, ⟨before', q, after, htext, hlength, rfl, hq⟩⟩
    -- both splits cut the text at the same position
    rw [← List.append_assoc] at htext
    obtain ⟨rfl, rfl⟩ := List.append_inj htext hlength.symm
    exact ⟨before, p ++ q, after, by simp only [List.append_assoc], rfl,
      by simp only [List.append_assoc], p, q, rfl, hp, hq⟩

theorem spans_chained_iff (hi : i ≤ text.length) (n : ℕ) :
    Spans text (Chained M n) i j ↔ Steps (Spans text M) n i j := by
  induction n generalizing i with
  | zero => exact spans_empty_iff hi
  | succ n ih =>
    refine spans_append_iff.trans (exists_congr fun k => and_congr_right fun hik => ?_)
    exact ih (spans_forward text M i k hik hi).2

theorem follows_empty (text : List α) :
    Follows text.length (fun s => s) (Spans text fun _ part _ => part = []) :=
  Follows.id.congr fun _ hi _ => (spans_empty_iff hi).symm

theorem follows_symbol (text : List α) (p : α → Bool) :
    Follows text.length (Positions.step (Positions.ahead p text))
      (Spans text fun _ part _ => ∃ a, part = [a] ∧ p a) where
  forward := spans_forward text _
  testBit_iff s j hs := by
    rw [Positions.testBit_step]
    refine exists_congr fun i => and_congr_right fun hi => ?_
    obtain ⟨before, after, rfl, rfl⟩ := exists_split (hs i hi)
    rw [Positions.testBit_ahead]
    constructor
    · rintro ⟨hp, rfl⟩
      cases after with
      | nil => exact absurd hp (by simp)
      | cons a after => exact ⟨before, [a], after, rfl, rfl, by simp, a, rfl, hp⟩
    · rintro ⟨before', part, after', htext, hlength, rfl, a, rfl, hp⟩
      obtain ⟨rfl, rfl⟩ := List.append_inj htext hlength.symm
      exact ⟨hp, by simp⟩

theorem follows_boundary (text : List α) (p : Option α → Option α → Bool) :
    Follows text.length (fun s => s &&& Positions.between p none text)
      (Spans text fun before part after => part = [] ∧ p before.getLast? after.head?) where
  forward := spans_forward text _
  testBit_iff s j hs := by
    rw [Nat.testBit_and, Bool.and_eq_true]
    constructor
    · rintro ⟨hj, hp⟩
      obtain ⟨before, after, rfl, rfl⟩ := exists_split (hs j hj)
      rw [Positions.testBit_between, Option.or_none] at hp
      exact ⟨before.length, hj, before, [], after, rfl, rfl, by rw [List.append_nil], rfl, hp⟩
    · rintro ⟨i, hi, before, part, after, rfl, rfl, rfl, rfl, hp⟩
      rw [List.append_nil, List.nil_append, Positions.testBit_between, Option.or_none]
      exact ⟨hi, hp⟩

end Spans

/-! ### Finding matches -/

namespace Expr

variable (reading : Reading σ β α) (text : List α)

/-- **An expression sends a set of positions to the ends of the matches that begin there.** -/
theorem follows_reach (e : Expr σ β) :
    Follows text.length (e.reach reading text) (Spans text (e.Matches reading)) := by
  induction e with
  | empty => exact follows_empty text
  | symbol c => exact follows_symbol text (reading.member c)
  | boundary b => exact follows_boundary text (reading.holds b)
  | seq first second ihf ihs =>
    exact (ihf.comp ihs).congr fun i _ j => spans_append_iff.symm
  | either left right ihl ihr =>
    refine (ihl.union ihr).congr fun i _ j => ?_
    constructor
    · rintro (⟨before, part, after, htext, hi, hj, hm⟩ | ⟨before, part, after, htext, hi, hj, hm⟩)
      · exact ⟨before, part, after, htext, hi, hj, .inl hm⟩
      · exact ⟨before, part, after, htext, hi, hj, .inr hm⟩
    · rintro ⟨before, part, after, htext, hi, hj, hm | hm⟩
      · exact .inl ⟨before, part, after, htext, hi, hj, hm⟩
      · exact .inr ⟨before, part, after, htext, hi, hj, hm⟩
  | many least greatest body ih =>
    refine (ih.repeated least greatest).congr fun i hi j => ?_
    constructor
    · rintro ⟨more, hmore, hsteps⟩
      obtain ⟨before, part, after, htext, hi, hj, hm⟩ := (spans_chained_iff hi _).mpr hsteps
      exact ⟨before, part, after, htext, hi, hj, more, hmore, hm⟩
    · rintro ⟨before, part, after, htext, hbefore, hj, more, hmore, hm⟩
      exact ⟨more, hmore, (spans_chained_iff hi _).mp ⟨before, part, after, htext, hbefore, hj, hm⟩⟩

variable {reading text}

/-- **A pattern occurs in a text if and only if a part of the text is a match.** -/
theorem occurs_iff {e : Expr σ β} :
    e.occurs reading text ↔
      ∃ before part after, text = before ++ (part ++ after) ∧
        e.Matches reading before part after := by
  have hall : Bounded text.length (Positions.all text.length) := fun i =>
    (Positions.testBit_all text.length i).mp
  have hreach := fun j => (e.follows_reach reading text).testBit_iff _ j hall
  rw [occurs, decide_eq_true_iff]
  constructor
  · intro hne
    obtain ⟨j, hj⟩ := Nat.exists_testBit_of_ne_zero hne
    obtain ⟨i, -, before, part, after, htext, -, -, hm⟩ := (hreach j).mp hj
    exact ⟨before, part, after, htext, hm⟩
  · rintro ⟨before, part, after, htext, hm⟩ hzero
    have hbefore : before.length ≤ text.length := by simp [htext]
    have hend := (hreach (before ++ part).length).mpr
      ⟨before.length, (Positions.testBit_all _ _).mpr hbefore, before, part, after, htext, rfl, rfl, hm⟩
    rw [hzero, Nat.zero_testBit] at hend
    exact Bool.false_ne_true hend

/-- **A pattern covers a text if and only if the whole text is a match.** -/
theorem covers_iff {e : Expr σ β} :
    e.covers reading text ↔ e.Matches reading [] text [] := by
  have hstart : Bounded text.length 1 := fun i hi => by
    rw [Nat.testBit_one_eq_true_iff_self_eq_zero.mp hi]
    exact Nat.zero_le _
  rw [covers, (e.follows_reach reading text).testBit_iff _ _ hstart]
  constructor
  · rintro ⟨i, hi, before, part, after, rfl, hbefore, hpart, hm⟩
    -- nothing stands before position zero and nothing after the last one
    rw [Nat.testBit_one_eq_true_iff_self_eq_zero.mp hi, List.length_eq_zero_iff] at hbefore
    obtain rfl := hbefore
    have hafter : after = [] := by
      simpa only [List.nil_append, List.length_append, Nat.left_eq_add,
        List.length_eq_zero_iff] using hpart
    obtain rfl := hafter
    rwa [List.nil_append, List.append_nil]
  · intro hm
    exact ⟨0, rfl, [], text, [], by simp, rfl, rfl, hm⟩

/-! ### Sequences and choices -/

section Building

variable {e : Expr σ β} {es : List (Expr σ β)} {before part after : List α}

theorem matches_sequence_cons_iff :
    (sequence (e :: es)).Matches reading before part after ↔
      ∃ p q, part = p ++ q ∧ e.Matches reading before p (q ++ after) ∧
        (sequence es).Matches reading (before ++ p) q after := by
  cases es with
  | nil =>
    constructor
    · intro h
      exact ⟨part, [], by rw [List.append_nil], h, rfl⟩
    · rintro ⟨p, q, rfl, hp, rfl⟩
      rwa [List.append_nil]
  | cons e' es => exact Iff.rfl

/-- **Symbols one after the other**, each of which is known by its image under `f`, match the texts
with these images. -/
theorem matches_sequence_symbols_iff {γ δ : Type} {s : δ → σ} {f : α → γ} {g : δ → γ}
    (h : ∀ d a, reading.member (s d) a ↔ f a = g d) {ds : List δ} :
    (sequence (ds.map fun d => (.symbol (s d) : Expr σ β))).Matches reading before part after ↔
      part.map f = ds.map g := by
  induction ds generalizing before part with
  | nil => exact List.map_eq_nil_iff.symm
  | cons d ds ih =>
    rw [List.map_cons, matches_sequence_cons_iff, List.map_cons, List.map_eq_cons_iff]
    constructor
    · rintro ⟨p, q, rfl, ⟨a, rfl, ha⟩, hq⟩
      exact ⟨a, q, rfl, (h d a).mp ha, ih.mp hq⟩
    · rintro ⟨a, q, rfl, ha, hq⟩
      exact ⟨[a], q, rfl, ⟨a, rfl, (h d a).mpr ha⟩, ih.mpr hq⟩

theorem matches_choice_iff (h : es ≠ []) :
    (choice es).Matches reading before part after ↔
      ∃ e ∈ es, e.Matches reading before part after := by
  induction es with
  | nil => exact absurd rfl h
  | cons e es ih =>
    simp only [List.mem_cons, exists_eq_or_imp]
    cases es with
    | nil => simp [choice]
    | cons e' es => exact or_congr_right (ih (List.cons_ne_nil e' es))

end Building

end Expr

end PlatformAudit.Pattern
