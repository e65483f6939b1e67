import Mathlib.Data.Nat.Bitwise
import PlatformAudit.Pattern.Positions

/-!
# Sets of positions and relations between positions

A function on sets of positions **follows** a relation if it sends a set to all positions that
the relation leads to from there (`PlatformAudit.Pattern.Follows`). The relations considered go
forward only and never beyond the end of the text.

Repetition follows the powers of a relation. It makes at most one round more than the text has
symbols, whatever numbers are asked for. That is enough, since a longer chain of steps stands
still at one of them, and such a step can be left out or taken again
(`PlatformAudit.Pattern.Steps.shorter_and_longer`).
-/

namespace PlatformAudit.Pattern

/-! ### Chains of steps -/

/-- A number of steps of a relation. -/
def Steps (R : ℕ → ℕ → Prop) : (n : ℕ) → ℕ → ℕ → Prop
  | 0, i, j => i = j
  | n + 1, i, j => ∃ k, R i k ∧ Steps R n k j

/-- A relation that goes forward, and in a text of this length not beyond the end. -/
def Forward (length : ℕ) (R : ℕ → ℕ → Prop) : Prop :=
  ∀ i j, R i j → i ≤ length → i ≤ j ∧ j ≤ length

namespace Steps

variable {R : ℕ → ℕ → Prop} {length m n i j : ℕ}

theorem add_iff : Steps R (m + n) i j ↔ ∃ k, Steps R m i k ∧ Steps R n k j := by
  induction m generalizing i with
  | zero =>
    rw [Nat.zero_add]
    constructor
    · exact fun h => ⟨i, rfl, h⟩
    · rintro ⟨k, rfl, h⟩
      exact h
  | succ m ih =>
    rw [Nat.succ_add]
    constructor
    · rintro ⟨k, hik, hkj⟩
      obtain ⟨l, hkl, hlj⟩ := ih.mp hkj
      exact ⟨l, ⟨k, hik, hkl⟩, hlj⟩
    · rintro ⟨l, ⟨k, hik, hkl⟩, hlj⟩
      exact ⟨k, hik, ih.mpr ⟨l, hkl, hlj⟩⟩

theorem forward (h : Forward length R) : Forward length (Steps R n) := by
  induction n with
  | zero =>
    rintro i j rfl hi
    exact ⟨le_rfl, hi⟩
  | succ n ih =>
    rintro i j ⟨k, hik, hkj⟩ hi
    obtain ⟨hle, hk⟩ := h i k hik hi
    obtain ⟨hle', hj⟩ := ih k j hkj hk
    exact ⟨hle.trans hle', hj⟩

/-- **A chain of more steps than positions stands still somewhere**, so there are chains with one
step less and with one step more between the same positions. -/
theorem shorter_and_longer (h : Forward length R) (hi : i ≤ length) (hsteps : Steps R (n + 1) i j)
    (hlt : j < i + (n + 1)) : Steps R n i j ∧ Steps R (n + 2) i j := by
  induction n generalizing i with
  | zero =>
    obtain ⟨k, hik, rfl⟩ := hsteps
    obtain rfl : i = k := by
      have := h i k hik hi
      omega
    exact ⟨rfl, i, hik, i, hik, rfl⟩
  | succ n ih =>
    obtain ⟨k, hik, hkj⟩ := hsteps
    obtain ⟨hle, hk⟩ := h i k hik hi
    rcases hle.eq_or_lt with rfl | hlt'
    · exact ⟨hkj, i, hik, i, hik, hkj⟩
    · -- the first step does move on, so the rest has a step to spare
      obtain ⟨hshorter, hlonger⟩ := ih hk hkj (by omega)
      exact ⟨⟨k, hik, hshorter⟩, ⟨k, hik, hlonger⟩⟩

/-- As many steps as a text has positions lead wherever more steps lead. -/
theorem min_iff (h : Forward length R) (hi : i ≤ length) :
    Steps R (min n (length + 1)) i j ↔ Steps R n i j := by
  rcases Nat.le_total n (length + 1) with hle | hle
  · rw [Nat.min_eq_left hle]
  · rw [Nat.min_eq_right hle]
    -- from here on one step more or less leads to the same positions
    induction n, hle using Nat.le_induction with
    | base => exact Iff.rfl
    | succ n hn ih =>
      obtain ⟨n, rfl⟩ : ∃ k, n = k + 1 := ⟨n - 1, by omega⟩
      rw [ih]
      constructor
      · intro hsteps
        have hj := (forward h i j hsteps hi).2
        exact (shorter_and_longer h hi hsteps (by omega)).2
      · intro hsteps
        have hj := (forward h i j hsteps hi).2
        exact (shorter_and_longer h hi hsteps (by omega)).1

theorem exists_le_min_iff (h : Forward length R) (hi : i ≤ length) :
    (∃ k ≤ min n (length + 1), Steps R k i j) ↔ ∃ k ≤ n, Steps R k i j := by
  constructor
  · rintro ⟨k, hk, hsteps⟩
    exact ⟨k, by omega, hsteps⟩
  · rintro ⟨k, hk, hsteps⟩
    exact ⟨min k (length + 1), by omega, (min_iff h hi).mpr hsteps⟩

end Steps

/-! ### The sets of a text -/

namespace Positions

variable {α : Type} {i j : ℕ} {s : Positions}

theorem testBit_add_zero (b : Bool) (s : ℕ) :
    ((if b then 1 else 0) + 2 * s).testBit 0 = b := by
  cases b <;> simp [Nat.testBit_zero]

theorem testBit_add_succ (b : Bool) (s i : ℕ) :
    ((if b then 1 else 0) + 2 * s).testBit (i + 1) = s.testBit i := by
  have hhalf : ((if b then 1 else 0) + 2 * s) / 2 = s := by split <;> omega
  rw [Nat.testBit_succ, hhalf]

theorem testBit_ahead (p : α → Bool) (before after : List α) :
    (ahead p (before ++ after)).testBit before.length = after.head?.any p := by
  induction before with
  | nil =>
    cases after with
    | nil => exact Nat.zero_testBit 0
    | cons a after => exact testBit_add_zero (p a) _
  | cons b before ih => rw [List.cons_append, ahead, List.length_cons, testBit_add_succ, ih]

theorem testBit_between (p : Option α → Option α → Bool) (left : Option α) (before after : List α) :
    (between p left (before ++ after)).testBit before.length =
      p (before.getLast?.or left) after.head? := by
  induction before generalizing left with
  | nil =>
    cases after with
    | nil => exact testBit_add_zero (p left none) 0
    | cons a after => exact testBit_add_zero (p left (some a)) _
  | cons b before ih =>
    rw [List.cons_append, between, List.length_cons, testBit_add_succ, ih, List.getLast?_cons]
    cases before.getLast? <;> rfl

theorem testBit_step (marked s : Positions) (j : ℕ) :
    (step marked s).testBit j ↔ ∃ i, s.testBit i ∧ marked.testBit i ∧ j = i + 1 := by
  cases j with
  | zero =>
    rw [step, ← Nat.zero_add (2 * _)]
    simp [Nat.testBit_zero]
  | succ j => simp [step, Nat.testBit_succ]

theorem testBit_all (length i : ℕ) : (all length).testBit i ↔ i ≤ length := by
  rw [all, Nat.pow_eq, Nat.testBit_two_pow_sub_one, decide_eq_true_iff, Nat.lt_succ_iff]

end Positions

/-! ### Functions that follow a relation -/

/-- All positions of a set are positions of a text of this length. -/
def Bounded (length : ℕ) (s : Positions) : Prop :=
  ∀ i, s.testBit i → i ≤ length

/-- A function on sets of positions goes where a relation leads. -/
structure Follows (length : ℕ) (f : Positions → Positions) (R : ℕ → ℕ → Prop) : Prop where
  forward : Forward length R
  testBit_iff : ∀ s j, Bounded length s → ((f s).testBit j ↔ ∃ i, s.testBit i ∧ R i j)

namespace Follows

open Positions

variable {f g : Positions → Positions} {R S : ℕ → ℕ → Prop} {length n : ℕ} {s : Positions}

theorem bounded (h : Follows length f R) (hs : Bounded length s) : Bounded length (f s) := by
  intro j hj
  obtain ⟨i, hi, hij⟩ := (h.testBit_iff _ _ hs).mp hj
  exact (h.forward i j hij (hs i hi)).2

/-- Relations that agree on the positions of the text are followed alike. -/
theorem congr (h : Follows length f R) (hRS : ∀ i ≤ length, ∀ j, R i j ↔ S i j) :
    Follows length f S where
  forward i j hij hi := h.forward i j ((hRS i hi j).mpr hij) hi
  testBit_iff s j hs := by
    rw [h.testBit_iff _ _ hs]
    exact exists_congr fun i => and_congr_right fun hi => hRS i (hs i hi) j

theorem comp (hf : Follows length f R) (hg : Follows length g S) :
    Follows length (fun s => g (f s)) fun i j => ∃ k, R i k ∧ S k j where
  forward := by
    rintro i j ⟨k, hik, hkj⟩ hi
    obtain ⟨hle, hk⟩ := hf.forward i k hik hi
    obtain ⟨hle', hj⟩ := hg.forward k j hkj hk
    exact ⟨hle.trans hle', hj⟩
  testBit_iff s j hs := by
    rw [hg.testBit_iff _ _ (hf.bounded hs)]
    constructor
    · rintro ⟨k, hk, hkj⟩
      obtain ⟨i, hi, hik⟩ := (hf.testBit_iff _ _ hs).mp hk
      exact ⟨i, hi, k, hik, hkj⟩
    · rintro ⟨i, hi, k, hik, hkj⟩
      exact ⟨k, (hf.testBit_iff _ _ hs).mpr ⟨i, hi, hik⟩, hkj⟩

theorem union (hf : Follows length f R) (hg : Follows length g S) :
    Follows length (fun s => f s ||| g s) fun i j => R i j ∨ S i j where
  forward i j hij := hij.elim (hf.forward i j) (hg.forward i j)
  testBit_iff s j hs := by
    rw [Nat.testBit_or, Bool.or_eq_true, hf.testBit_iff _ _ hs, hg.testBit_iff _ _ hs, ← exists_or]
    exact exists_congr fun i => and_or_left.symm

theorem id : Follows length (fun s => s) fun i j => i = j where
  forward := by
    rintro i j rfl hi
    exact ⟨le_rfl, hi⟩
  testBit_iff s j _ := by
    constructor
    · exact fun hj => ⟨_, hj, rfl⟩
    · rintro ⟨i, hi, rfl⟩
      exact hi

/-! ### Repetition -/

theorem rounds_of_fixed (hs : f s = s) (n : ℕ) : rounds f n s = s := by
  cases n with
  | zero => rfl
  | succ n => simp only [rounds, hs, if_true]

/-- To stop at a round that changes nothing makes no difference. -/
theorem rounds_succ (f : Positions → Positions) (n : ℕ) (s : Positions) :
    rounds f (n + 1) s = rounds f n (f s) := by
  simp only [rounds]
  split
  next hs => rw [hs, rounds_of_fixed hs]
  next => rfl

theorem within_of_fixed (hs : s ||| f s = s) (n : ℕ) : within f n s = s := by
  cases n with
  | zero => rfl
  | succ n => simp only [within, hs, if_true]

theorem within_succ (f : Positions → Positions) (n : ℕ) (s : Positions) :
    within f (n + 1) s = within f n (s ||| f s) := by
  simp only [within]
  split
  next hs => rw [hs, within_of_fixed hs]
  next => rfl

theorem orbit_eq (f : Positions → Positions) (n : ℕ) (s : Positions) :
    orbit f n s = (within f n s, f (within f n s)) := by
  induction n generalizing s with
  | zero => rfl
  | succ n ih =>
    simp only [orbit]
    split
    next hs => rw [within_of_fixed hs]
    next => rw [ih, within_succ]

theorem rounds (h : Follows length f R) (n : ℕ) : Follows length (rounds f n) (Steps R n) := by
  induction n with
  | zero => exact .id
  | succ n ih =>
    have hrounds : Positions.rounds f (n + 1) = fun s => Positions.rounds f n (f s) :=
      funext (rounds_succ f n)
    rw [hrounds]
    exact h.comp ih

theorem within (h : Follows length f R) (n : ℕ) :
    Follows length (within f n) fun i j => ∃ k ≤ n, Steps R k i j := by
  induction n with
  | zero => exact id.congr fun i _ j => by simp [Steps]
  | succ n ih =>
    have hwithin : Positions.within f (n + 1) = fun s => Positions.within f n (s ||| f s) :=
      funext (within_succ f n)
    rw [hwithin]
    refine ((id.union h).comp ih).congr fun i _ j => ?_
    constructor
    · rintro ⟨l, rfl | hil, k, hk, hsteps⟩
      · exact ⟨k, by omega, hsteps⟩
      · exact ⟨k + 1, by omega, l, hil, hsteps⟩
    · rintro ⟨k, hk, hsteps⟩
      cases k with
      | zero => exact ⟨i, .inl rfl, 0, by omega, hsteps⟩
      | succ k =>
        obtain ⟨l, hil, hsteps⟩ := hsteps
        exact ⟨l, .inr hil, k, by omega, hsteps⟩

theorem withinAny (h : Follows length f R) :
    Follows length (Positions.within f (length + 1)) fun i j => ∃ k, Steps R k i j := by
  refine (h.within (length + 1)).congr fun i hi j => ?_
  constructor
  · rintro ⟨k, -, hsteps⟩
    exact ⟨k, hsteps⟩
  · rintro ⟨k, hsteps⟩
    exact ⟨min k (length + 1), Nat.min_le_right .., (Steps.min_iff h.forward hi).mpr hsteps⟩

/-- **A repetition leads where the demanded number of steps leads.** -/
theorem repeated (h : Follows length f R) (least : ℕ) (greatest : Option ℕ) :
    Follows length (repeated f length least greatest) fun i j =>
      ∃ more, (∀ g ∈ greatest, more ≤ g - least) ∧ Steps R (least + more) i j := by
  cases greatest with
  | some g =>
    refine ((h.within _).comp (h.rounds _)).congr fun i hi j => ?_
    simp only [Option.mem_some_iff, forall_eq']
    constructor
    · rintro ⟨k, ⟨more, hmore, hik⟩, hkj⟩
      have hk := (Steps.forward h.forward i k hik hi).2
      have hkj := (Steps.min_iff h.forward hk).mp hkj
      exact ⟨more, by omega, Nat.add_comm .. ▸ Steps.add_iff.mpr ⟨k, hik, hkj⟩⟩
    · rintro ⟨more, hmore, hsteps⟩
      obtain ⟨k, hik, hkj⟩ := Steps.add_iff.mp (Nat.add_comm .. ▸ hsteps)
      have hk := (Steps.forward h.forward i k hik hi).2
      exact ⟨k, (Steps.exists_le_min_iff h.forward hi).mpr ⟨more, hmore, hik⟩,
        (Steps.min_iff h.forward hk).mpr hkj⟩
  | none =>
    cases least with
    | zero =>
      have heq : Positions.repeated f length 0 none = Positions.within f (length + 1) := by
        funext s
        simp only [Positions.repeated, orbit_eq]
      rw [heq]
      exact h.withinAny.congr fun i hi j => by simp
    | succ n =>
      have heq : Positions.repeated f length (n + 1) none = fun s =>
          Positions.rounds f (min n (length + 1)) (f (Positions.within f (length + 1) s)) := by
        funext s
        simp only [Positions.repeated, orbit_eq]
      rw [heq]
      -- any number of steps, then one, then the others that are asked for
      refine ((h.withinAny.comp h).comp (h.rounds _)).congr fun i hi j => ?_
      constructor
      · rintro ⟨l, ⟨k, ⟨more, hik⟩, hkl⟩, hlj⟩
        have hk := (Steps.forward h.forward i k hik hi).2
        have hlj := (Steps.min_iff h.forward (h.forward k l hkl hk).2).mp hlj
        exact ⟨more, by simp, Nat.add_comm .. ▸ Steps.add_iff.mpr ⟨k, hik, l, hkl, hlj⟩⟩
      · rintro ⟨more, -, hsteps⟩
        obtain ⟨k, hik, l, hkl, hlj⟩ := Steps.add_iff.mp (Nat.add_comm .. ▸ hsteps)
        have hk := (Steps.forward h.forward i k hik hi).2
        exact ⟨l, ⟨k, ⟨more, hik⟩, hkl⟩,
          (Steps.min_iff h.forward (h.forward k l hkl hk).2).mpr hlj⟩

end Follows

end PlatformAudit.Pattern
