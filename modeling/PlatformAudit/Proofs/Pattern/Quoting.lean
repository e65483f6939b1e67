import Mathlib.Data.List.Basic
import PlatformAudit.Pattern.Parser
import PlatformAudit.Proofs.Pattern.Matching
import PlatformAudit.Proofs.Text.CaseFold

/-!
# Quoted texts in patterns

`PlatformAudit.Pattern.quote` puts a backslash before each character that has a meaning of its
own in a pattern. What the reader makes of a quoted text is then the characters of the text, one
after the other (`PlatformAudit.Pattern.branch_quote`), and quoted texts with bars between them
are alternatives (`PlatformAudit.Pattern.alternatives_intercalate`). Where case does not count,
such an alternative matches what folds as the text does
(`PlatformAudit.Pattern.matches_literals_iff`).

The reader is followed step by step. Its fuel goes down by one with every character, so all
statements here ask for as much as there is text, and the reader starts with more.
-/

namespace PlatformAudit.Pattern

open Text

/-! ### Steps of the reader -/

section Steps

variable {α β : Type} {flags : Flags} {names : List (List Char)}

theorem bind_of_eq {x : Parse α} {f : α → Parse β} {input input' : Input} {a : α}
    (h : x input = some (a, input')) : (x >>= f) input = f a input' := by
  change (x input >>= fun result => f result.1 result.2) = _
  rw [h]
  rfl

theorem get_eq (input : Input) : (get : Parse Input) input = some (input, input) := rfl

theorem next_eq (c : Char) (cs : List Char) :
    next ⟨c :: cs, flags, names⟩ = some (c, ⟨cs, flags, names⟩) := rfl

theorem continueAt_eq (rest : List Char) (input : Input) :
    continueAt rest input = some ((), { input with rest }) := rfl

theorem skipSpace_eq {input : Input} (h : input.flags.verbose = false) :
    skipSpace input = some ((), input) := by
  change some ((), if input.flags.verbose then _ else input) = _
  rw [h]
  rfl

theorem nextIs_of_eq (c : Char) (cs : List Char) :
    nextIs c ⟨c :: cs, flags, names⟩ = some (true, ⟨cs, flags, names⟩) := by
  rw [nextIs, bind_of_eq (get_eq _)]
  dsimp only
  rw [if_pos rfl]
  rfl

theorem nextIs_of_ne {c : Char} {cs : List Char} (h : cs.head? ≠ some c) :
    nextIs c ⟨cs, flags, names⟩ = some (false, ⟨cs, flags, names⟩) := by
  rw [nextIs, bind_of_eq (get_eq _)]
  cases cs with
  | nil => rfl
  | cons d ds =>
    dsimp only
    rw [if_neg fun heq : c = d => h (heq ▸ rfl)]
    rfl

/-- A character without a meaning of its own stands for itself. -/
theorem primitive_plain {c : Char} (h : isSpecial c = false) (cs : List Char) :
    primitive ⟨c :: cs, flags, names⟩ = some (literal flags c, ⟨cs, flags, names⟩) := by
  rw [primitive, bind_of_eq (get_eq _), bind_of_eq (next_eq c cs)]
  split
  all_goals first | rfl | simp [isSpecial] at h

/-- A backslash takes the meaning from a character that has one. -/
theorem primitive_escaped {c : Char} (h : isSpecial c) (cs : List Char) :
    primitive ⟨'\\' :: c :: cs, flags, names⟩ = some (literal flags c, ⟨cs, flags, names⟩) := by
  simp only [isSpecial, List.contains_eq_mem, List.mem_cons, List.not_mem_nil, or_false,
    decide_eq_true_eq] at h
  rcases h with rfl | rfl | rfl | rfl | rfl | rfl | rfl | rfl | rfl | rfl | rfl | rfl | rfl | rfl |
    rfl | rfl | rfl | rfl <;> rfl

end Steps

/-! ### Branches -/

section Branches

variable {flags : Flags} {names : List (List Char)} {c : Char} {cs rest : List Char}

/-- An alternative goes on with a symbol, unless a character begins something else. -/
theorem branch_primitive {input : Input} {part : Tree} (hverbose : flags.verbose = false)
    (hc : c ∉ ['|', ')', '(', '[', '*', '+', '?', '\x7b'])
    (h : primitive ⟨c :: cs, flags, names⟩ = some (part, input)) (fuel : ℕ) (parts : List Tree) :
    branch (fuel + 1) parts ⟨c :: cs, flags, names⟩ = branch fuel (part :: parts) input := by
  have hskip : skipSpace ⟨c :: cs, flags, names⟩ = some ((), ⟨c :: cs, flags, names⟩) :=
    skipSpace_eq hverbose
  rw [branch, bind_of_eq hskip, bind_of_eq (get_eq _)]
  have hstep : (primitive >>= fun part => branch fuel (part :: parts)) ⟨c :: cs, flags, names⟩ =
      branch fuel (part :: parts) input := bind_of_eq h
  rw [← hstep]
  -- the step is chosen by the first character, and only then is it given the input
  refine congrFun ?_ _
  simp only [List.mem_cons, List.not_mem_nil, or_false, not_or] at hc
  dsimp only
  split
  all_goals simp_all

/-- What ends an alternative. -/
def EndsBranch (rest : List Char) : Prop :=
  ∀ c ∈ rest.head?, c = '|' ∨ c = ')'

theorem branch_end (hverbose : flags.verbose = false) (hrest : EndsBranch rest) (fuel : ℕ)
    (parts : List Tree) :
    branch (fuel + 1) parts ⟨rest, flags, names⟩ =
      some (.ofParts parts.reverse, ⟨rest, flags, names⟩) := by
  have hskip : skipSpace ⟨rest, flags, names⟩ = some ((), ⟨rest, flags, names⟩) :=
    skipSpace_eq hverbose
  rw [branch, bind_of_eq hskip, bind_of_eq (get_eq _)]
  cases rest with
  | nil => rfl
  | cons c cs =>
    rcases hrest c rfl with rfl | rfl
    · rfl
    · rfl

theorem quote_cons (c : Char) (cs : List Char) :
    quote (c :: cs) = (if isSpecial c then ['\\', c] else [c]) ++ quote cs :=
  List.flatMap_cons ..

theorem branch_quote_char (hverbose : flags.verbose = false) (c : Char) (rest : List Char)
    (fuel : ℕ) (parts : List Tree) :
    branch (fuel + 1) parts ⟨(if isSpecial c then ['\\', c] else [c]) ++ rest, flags, names⟩ =
      branch fuel (literal flags c :: parts) ⟨rest, flags, names⟩ := by
  cases hc : isSpecial c with
  | true => exact branch_primitive hverbose (by decide) (primitive_escaped hc rest) fuel parts
  | false =>
    refine branch_primitive hverbose (fun hmem => ?_) (primitive_plain hc rest) fuel parts
    simp only [List.mem_cons, List.not_mem_nil, or_false] at hmem
    rcases hmem with rfl | rfl | rfl | rfl | rfl | rfl | rfl | rfl <;> exact absurd hc (by decide)

theorem length_le_length_quote (cs : List Char) : cs.length ≤ (quote cs).length := by
  induction cs with
  | nil => exact le_rfl
  | cons c cs ih =>
    rw [quote_cons, List.length_append, List.length_cons]
    split
    all_goals
      simp only [List.length_cons, List.length_nil]
      omega

/-- **A quoted text is read as the characters of the text.** -/
theorem branch_quote (hverbose : flags.verbose = false) (hrest : EndsBranch rest)
    (cs : List Char) {fuel : ℕ} (hfuel : cs.length < fuel) (parts : List Tree) :
    branch fuel parts ⟨quote cs ++ rest, flags, names⟩ =
      some (.ofParts (parts.reverse ++ cs.map (literal flags)), ⟨rest, flags, names⟩) := by
  obtain ⟨fuel, rfl⟩ : ∃ k, fuel = k + 1 := ⟨fuel - 1, by omega⟩
  induction cs generalizing fuel parts with
  | nil =>
    rw [List.map_nil, List.append_nil]
    exact branch_end hverbose hrest fuel parts
  | cons c cs ih =>
    rw [List.length_cons] at hfuel
    obtain ⟨fuel, rfl⟩ : ∃ k, fuel = k + 1 := ⟨fuel - 1, by omega⟩
    rw [quote_cons, List.append_assoc, branch_quote_char hverbose, ih _ fuel (by omega),
      List.reverse_cons, List.append_assoc, List.map_cons, List.singleton_append]

/-- An alternative that is followed by no bar is the last. -/
theorem alternatives_last {fuel : ℕ} {input : Input} {first : Tree}
    (h : branch fuel [] input = some (first, ⟨rest, flags, names⟩))
    (hrest : rest.head? ≠ some '|') :
    alternatives (fuel + 1) input = some ([first], ⟨rest, flags, names⟩) := by
  rw [alternatives, bind_of_eq h, bind_of_eq (nextIs_of_ne hrest)]
  rfl

theorem alternatives_bar {fuel : ℕ} {input input' : Input} {first : Tree} {branches : List Tree}
    (h : branch fuel [] input = some (first, ⟨'|' :: rest, flags, names⟩))
    (hmore : alternatives fuel ⟨rest, flags, names⟩ = some (branches, input')) :
    alternatives (fuel + 1) input = some (first :: branches, input') := by
  rw [alternatives, bind_of_eq h, bind_of_eq (nextIs_of_eq '|' rest)]
  exact bind_of_eq hmore

/-- **Quoted texts with bars between them are alternatives.** -/
theorem alternatives_intercalate (hverbose : flags.verbose = false)
    (hrest : ∀ c ∈ rest.head?, c = ')') (text : List Char) (texts : List (List Char)) {fuel : ℕ}
    (hfuel : (['|'].intercalate ((text :: texts).map quote)).length + 1 < fuel) :
    alternatives fuel ⟨['|'].intercalate ((text :: texts).map quote) ++ rest, flags, names⟩ =
      some ((text :: texts).map fun text => .ofParts (text.map (literal flags)),
        ⟨rest, flags, names⟩) := by
  obtain ⟨fuel, rfl⟩ : ∃ k, fuel = k + 1 := ⟨fuel - 1, by omega⟩
  have hquote := length_le_length_quote text
  induction texts generalizing text fuel with
  | nil =>
    rw [List.map_cons, List.map_nil, List.intercalate_singleton] at hfuel ⊢
    refine alternatives_last (branch_quote hverbose ?_ text (by omega) []) ?_
    · exact fun c hc => .inr (hrest c hc)
    · intro hbar
      exact absurd (hrest '|' hbar) (by decide)
  | cons next texts ih =>
    rw [List.map_cons, List.map_cons, List.intercalate_cons_cons, List.append_assoc] at hfuel ⊢
    rw [List.length_append, List.singleton_append, List.length_cons] at hfuel
    rw [List.append_assoc, List.singleton_append]
    obtain ⟨fuel, rfl⟩ : ∃ k, fuel = k + 1 := ⟨fuel - 1, by omega⟩
    -- the bar pays for the unit of fuel that goes with an alternative
    refine alternatives_bar (branch_quote hverbose ?_ text (by omega) []) ?_
    · rintro c ⟨⟩
      exact .inl rfl
    · exact ih next fuel (by simpa using by omega) (length_le_length_quote next)

end Branches

/-! ### Groups -/

section Groups

variable {flags : Flags} {names names' : List (List Char)} {cs rest : List Char} {fuel : ℕ}

theorem expect_eq (c : Char) (cs : List Char) :
    expect c ⟨c :: cs, flags, names⟩ = some ((), ⟨cs, flags, names⟩) := by
  rw [expect, bind_of_eq (nextIs_of_eq c cs)]
  rfl

/-- A group that begins with no question mark captures, and flags set in it end with it. -/
theorem group_captures {flags' : Flags} {branches : List Tree} (hverbose : flags.verbose = false)
    (hcs : cs.head? ≠ some '?')
    (h : alternatives fuel ⟨cs, flags, names⟩ = some (branches, ⟨')' :: rest, flags', names'⟩)) :
    group (fuel + 1) ⟨cs, flags, names⟩ =
      some (.group true (.ofBranches branches), ⟨rest, flags, names'⟩) := by
  have hskip : skipSpace ⟨cs, flags, names⟩ = some ((), ⟨cs, flags, names⟩) :=
    skipSpace_eq hverbose
  rw [group, bind_of_eq hskip, bind_of_eq (get_eq _), bind_of_eq (get_eq _)]
  have hbody : (do
      let branches ← alternatives fuel
      expect ')'
      modify fun input => { input with flags }
      return Tree.group true (.ofBranches branches) : Parse Tree) ⟨cs, flags, names⟩ =
        some (.group true (.ofBranches branches), ⟨rest, flags, names'⟩) := by
    rw [bind_of_eq h, bind_of_eq (expect_eq ')' rest)]
    rfl
  rw [← hbody]
  refine congrFun ?_ _
  dsimp only
  split
  all_goals simp_all

theorem branch_group {input : Input} {part : Tree} (hverbose : flags.verbose = false)
    (h : group fuel ⟨cs, flags, names⟩ = some (part, input)) (parts : List Tree) :
    branch (fuel + 1) parts ⟨'(' :: cs, flags, names⟩ = branch fuel (part :: parts) input := by
  have hskip : skipSpace ⟨'(' :: cs, flags, names⟩ = some ((), ⟨'(' :: cs, flags, names⟩) :=
    skipSpace_eq hverbose
  have hgroup : (do
      continueAt cs
      let part ← group fuel
      branch fuel (part :: parts) : Parse Tree) ⟨'(' :: cs, flags, names⟩ =
        branch fuel (part :: parts) input := by
    rw [bind_of_eq (continueAt_eq cs _)]
    exact bind_of_eq h
  rw [branch, bind_of_eq hskip, bind_of_eq (get_eq _)]
  exact hgroup

theorem head?_quote_append (text : List Char) (hrest : rest.head? ≠ some '?') :
    (quote text ++ rest).head? ≠ some '?' := by
  cases text with
  | nil => exact hrest
  | cons c cs =>
    rw [quote_cons]
    split
    next => simp
    next hc =>
      rintro ⟨⟩
      exact hc (by decide)

/-- Quoted texts do not begin as a group with flags does. -/
theorem head?_intercalate_quote (texts : List (List Char)) (rest : List Char) :
    (['|'].intercalate (texts.map quote) ++ ')' :: rest).head? ≠ some '?' := by
  rcases texts with _ | ⟨text, _ | ⟨next, texts⟩⟩
  · simp
  · rw [List.map_cons, List.map_nil, List.intercalate_singleton]
    exact head?_quote_append text (by simp)
  · rw [List.map_cons, List.map_cons, List.intercalate_cons_cons, List.append_assoc,
      List.append_assoc]
    exact head?_quote_append text (by simp)

end Groups

/-! ### What quoted texts match -/

section Literals

variable {flags : Flags}

theorem meanings_eq (ts : List Tree) : Tree.meanings ts = ts.map Tree.meaning := by
  induction ts with
  | nil => rfl
  | cons t ts ih => rw [Tree.meanings, ih, List.map_cons]

theorem meaning_ofParts (ts : List Tree) :
    (Tree.ofParts ts).meaning = Expr.sequence (ts.map Tree.meaning) := by
  rw [← meanings_eq]
  rcases ts with _ | ⟨t, _ | ⟨t', ts⟩⟩ <;> rfl

theorem meaning_ofBranches (ts : List Tree) :
    (Tree.ofBranches ts).meaning = Expr.choice (ts.map Tree.meaning) := by
  rw [← meanings_eq]
  rcases ts with _ | ⟨t, _ | ⟨t', ts⟩⟩ <;> rfl

theorem member_closed_single (hcase : flags.ignoreCase) (hlatin : flags.latin = false)
    {c d : Char} : (flags.closed (.single d)).member c ↔ foldCase c = foldCase d := by
  rw [Flags.closed, if_pos hcase, if_neg (by simp [hlatin]), CharSet.member]
  simp only [CharSet.member, List.any_eq_true, decide_eq_true_eq, exists_eq_right]
  exact mem_caseOrbit_iff.trans eq_comm

/-- **The characters of a text, where case does not count, match what folds as the text does.** -/
theorem matches_literals_iff (hcase : flags.ignoreCase) (hlatin : flags.latin = false)
    {cs before part after : List Char} :
    (Expr.sequence (cs.map fun c => (literal flags c).meaning)).Matches characters before part after ↔
      part.map foldCase = cs.map foldCase :=
  Expr.matches_sequence_symbols_iff fun _ _ => member_closed_single hcase hlatin

end Literals

end PlatformAudit.Pattern
