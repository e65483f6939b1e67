import PlatformAudit.Detect.Directives
import PlatformAudit.Proofs.Text.Segments

/-!
# Symbols in conditions

A directive begins with a number sign and a word, and those with the words `if` and `elif` have a
condition. The detector looks for tokens in the symbols of conditions, which are the maximal runs
of identifier characters, and reports each symbol that contains one. So the hits are listed by the
number of the directive and the position of the symbol in its condition
(`PlatformAudit.Detect.directiveHits_listed`).

Where the word of a directive ends is not decided in the same way as where a symbol ends. A low
line belongs to symbols, and hence to words (`PlatformAudit.Detect.IsCondition`), but the detector
only makes sure that no letter or digit follows the keyword
(`PlatformAudit.Detect.TakenAsCondition`). A word that goes on with a low line after `if` or
`elif` is therefore taken for the keyword, and this is the only difference between the two
(`PlatformAudit.Detect.takenAsCondition_iff`).
-/

namespace PlatformAudit.Detect

open Text Code

/-! ### Conditions -/

/-- The words of directives with a condition. -/
def conditionKeywords : List (List Char) :=
  ["if".toList, "elif".toList]

/-- A number sign and a word stand before the rest of a text, with nothing but white space before
and between them. -/
def Introduces (text word rest : List Char) : Prop :=
  ∃ lead gap, text = lead ++ '#' :: (gap ++ (word ++ rest)) ∧
    (∀ c ∈ lead, isBlank c = true) ∧ ∀ c ∈ gap, isBlank c = true

/-- **The condition of a directive**: what follows its word, if the word is a keyword. The word is
the maximal run of identifier characters after the number sign. -/
def IsCondition (text cond : List Char) : Prop :=
  ∃ word ∈ conditionKeywords, Introduces text word cond ∧
    (∀ c ∈ word, isIdentifierChar c = true) ∧ ∀ c ∈ cond.head?, isIdentifierChar c = false

/-- **What the detector takes for the condition of a directive**: what follows a keyword, if that
does not begin with a letter or a digit. -/
def TakenAsCondition (text cond : List Char) : Prop :=
  ∃ keyword ∈ conditionKeywords, Introduces text keyword cond ∧
    ∀ c ∈ cond.head?, isAlphanumeric c = false

/-- A keyword is followed by a low line, so that it is only the beginning of a word. -/
def GoesOnWithLowLine (text cond : List Char) : Prop :=
  ∃ keyword ∈ conditionKeywords, Introduces text keyword cond ∧ cond.head? = some '_'

variable {text cond : List Char}

theorem keyword_isIdentifier : ∀ word ∈ conditionKeywords, word.all isIdentifierChar = true := by
  decide +kernel

theorem isIdentifierChar_eq_false_iff {c : Char} :
    isIdentifierChar c = false ↔ isAlphanumeric c = false ∧ c ≠ '_' := by
  rw [isIdentifierChar, Bool.or_eq_false_iff, decide_eq_false_iff_not]

/-- **A condition is taken for one, and so is what begins with a low line after a keyword.** -/
theorem takenAsCondition_iff :
    TakenAsCondition text cond ↔ IsCondition text cond ∨ GoesOnWithLowLine text cond := by
  constructor
  · rintro ⟨keyword, hkeyword, hintroduces, hend⟩
    by_cases hlow : cond.head? = some '_'
    · exact .inr ⟨keyword, hkeyword, hintroduces, hlow⟩
    · refine .inl ⟨keyword, hkeyword, hintroduces,
        List.all_eq_true.mp (keyword_isIdentifier keyword hkeyword), ?_⟩
      intro c hc
      refine isIdentifierChar_eq_false_iff.mpr ⟨hend c hc, ?_⟩
      rintro rfl
      exact hlow hc
  · rintro (⟨word, hword, hintroduces, -, hend⟩ | ⟨keyword, hkeyword, hintroduces, hlow⟩)
    · exact ⟨word, hword, hintroduces,
        fun c hc => (isIdentifierChar_eq_false_iff.mp (hend c hc)).1⟩
    · refine ⟨keyword, hkeyword, hintroduces, fun c hc => ?_⟩
      rw [hlow] at hc
      obtain rfl := Option.some.inj hc
      decide +kernel

/-- The two keywords cannot be confused. -/
theorem dropKeyword_eq_some_iff {rest : List Char} :
    (dropStart? "elif".toList text <|> dropStart? "if".toList text) = some rest ↔
      ∃ keyword ∈ conditionKeywords, text = keyword ++ rest := by
  rw [Option.orElse_eq_orElse, Option.orElse_eq_or, Option.or_eq_some_iff, dropStart?_eq_some_iff,
    dropStart?_eq_some_iff]
  simp only [conditionKeywords, List.mem_cons, List.not_mem_nil, or_false, exists_eq_or_imp,
    exists_eq_left]
  constructor
  · rintro (helif | ⟨-, hif⟩)
    · exact .inr helif
    · exact .inl hif
  · rintro (rfl | helif)
    · exact .inr ⟨rfl, rfl⟩
    · exact .inl helif

/-- A word that begins with no white space is what is left after trimming. -/
theorem introduces_iff {word rest : List Char} (h : ∀ c ∈ (word ++ rest).head?, isBlank c = false) :
    Introduces text word rest ↔
      ∃ after, trimStart text = '#' :: after ∧ trimStart after = word ++ rest := by
  simp only [trimStart_eq_iff]
  constructor
  · rintro ⟨lead, gap, htext, hlead, hgap⟩
    have hsign : ∀ c ∈ ('#' :: (gap ++ (word ++ rest))).head?, isBlank c = false := by
      rintro c ⟨⟩
      decide
    exact ⟨_, ⟨lead, htext, hlead, hsign⟩, gap, rfl, hgap, h⟩
  · rintro ⟨_, ⟨lead, htext, hlead, -⟩, gap, rfl, hgap, -⟩
    exact ⟨lead, gap, htext, hlead, hgap⟩

theorem keyword_not_blank {keyword : List Char} (h : keyword ∈ conditionKeywords)
    (rest : List Char) : ∀ c ∈ (keyword ++ rest).head?, isBlank c = false := by
  simp only [conditionKeywords, List.mem_cons, List.not_mem_nil, or_false] at h
  rcases h with rfl | rfl
  · rintro c ⟨⟩
    decide
  · rintro c ⟨⟩
    decide

/-- **The detector finds a condition where there is one to be taken for such.** -/
theorem condition?_eq_some_iff : condition? text = some cond ↔ TakenAsCondition text cond := by
  simp only [condition?, Option.bind_eq_bind, Option.bind_eq_some_iff, dropStart?_eq_some_iff,
    dropKeyword_eq_some_iff, List.singleton_append]
  constructor
  · rintro ⟨after, htext, rest, ⟨keyword, hkeyword, hafter⟩, hrest⟩
    have hintroduces : Introduces text keyword rest :=
      (introduces_iff (keyword_not_blank hkeyword rest)).mpr ⟨after, htext, hafter⟩
    cases rest with
    | nil =>
      obtain rfl := Option.some.inj hrest
      exact ⟨keyword, hkeyword, hintroduces, by simp⟩
    | cons c rest =>
      obtain ⟨hc, hcond⟩ := Option.ite_none_left_eq_some.mp hrest
      obtain rfl := Option.some.inj hcond
      exact ⟨keyword, hkeyword, hintroduces, by simpa using hc⟩
  · rintro ⟨keyword, hkeyword, hintroduces, hend⟩
    obtain ⟨after, htext, hafter⟩ :=
      (introduces_iff (keyword_not_blank hkeyword cond)).mp hintroduces
    refine ⟨after, htext, cond, ⟨keyword, hkeyword, hafter⟩, ?_⟩
    cases cond with
    | nil => rfl
    | cons c cond => exact if_neg (by simp [hend c rfl])

/-! ### Symbols -/

/-- A symbol contains one of some tokens, up to the case of Latin letters. -/
def ContainsToken (tokens : List String) (symbol : List Char) : Prop :=
  ∃ t ∈ tokens, t.toList.map asciiUpper <:+: symbol.map asciiUpper

theorem containsToken_iff {tokens : List String} {symbol : List Char} :
    containsToken tokens symbol = true ↔ ContainsToken tokens symbol := by
  rw [containsToken, List.any_eq_true]
  simp only [occursIn_iff]
  rfl

/-- The hit of a symbol. -/
def symbolHit (d : Directive) (symbol : List Char) : Hit where
  line := d.line
  subject := String.ofList (trim d.text.toList)
  evidence := String.ofList symbol

/-- The hit of a symbol, if it contains a token. -/
def tokenHit? (tokens : List String) (d : Directive) (symbol : List Char) : Option Hit :=
  if containsToken tokens symbol then some (symbolHit d symbol) else none

/-- The hit of the symbol at a position in the condition of a directive. -/
def symbolHitAt? (tokens : List String) (d : Directive) (i : ℕ) : Option Hit :=
  (condition? d.text.toList).bind fun cond =>
    (runAt? isIdentifierChar cond i).bind (tokenHit? tokens d)

theorem symbolHitAt?_eq_some_iff {tokens : List String} {d : Directive} {i : ℕ} {hit : Hit} :
    symbolHitAt? tokens d i = some hit ↔ ∃ cond symbol, TakenAsCondition d.text.toList cond ∧
      RunAt isIdentifierChar cond i symbol ∧ ContainsToken tokens symbol ∧
      hit = symbolHit d symbol := by
  simp only [symbolHitAt?, tokenHit?, Option.bind_eq_some_iff, condition?_eq_some_iff,
    runAt?_eq_some_iff, Option.ite_none_right_eq_some, containsToken_iff, Option.some.injEq]
  constructor
  · rintro ⟨cond, hcond, symbol, hsymbol, htoken, rfl⟩
    exact ⟨cond, symbol, hcond, hsymbol, htoken, rfl⟩
  · rintro ⟨cond, symbol, hcond, hsymbol, htoken, rfl⟩
    exact ⟨cond, hcond, symbol, hsymbol, htoken, rfl⟩

/-- **The hits of a directive are listed by the positions of their symbols.** -/
theorem listedBy_directiveHitsAt (tokens : List String) (d : Directive) :
    ∃ keys, ListedBy (· < ·) (symbolHitAt? tokens d) (directiveHitsAt tokens d) keys := by
  cases hcond : condition? d.text.toList with
  | none =>
    -- without a condition there is nothing to list
    have hnone (i : ℕ) : symbolHitAt? tokens d i = none := by rw [symbolHitAt?, hcond]; rfl
    refine ⟨[], List.Pairwise.nil, fun i hit hi => ?_, ?_⟩
    · rw [hnone i] at hi
      cases hi
    · rw [directiveHitsAt, hcond]
      rfl
  | some cond =>
    obtain ⟨keys, hlisted⟩ := listedBy_runs isIdentifierChar cond
    have hhits := hlisted.filterMap (tokenHit? tokens d)
    have hget (i : ℕ) : symbolHitAt? tokens d i =
        (runAt? isIdentifierChar cond i).bind (tokenHit? tokens d) := by
      rw [symbolHitAt?, hcond]
      rfl
    have hitems : directiveHitsAt tokens d =
        (runsOf isIdentifierChar cond).filterMap (tokenHit? tokens d) := by
      rw [directiveHitsAt, hcond]
      dsimp only
      rw [← List.filterMap_eq_map, List.filterMap_filter]
      rfl
    rw [← funext hget, ← hitems] at hhits
    exact ⟨_, hhits⟩

/-! ### All directives -/

/-- The hit of a symbol in a unit, by the number of the directive and the position of the symbol in
its condition. -/
def SymbolHit (tokens : List String) (directives : List Directive) (key : ℕ × ℕ) (hit : Hit) :
    Prop :=
  ∃ d cond symbol, directives[key.1]? = some d ∧ TakenAsCondition d.text.toList cond ∧
    RunAt isIdentifierChar cond key.2 symbol ∧ ContainsToken tokens symbol ∧
    hit = symbolHit d symbol

/-- **The hits in directives.** There is one for each symbol that contains a token, in the order of
the directives and of the symbols in their conditions. What counts as a condition is what follows
the keyword of a directive, and what follows a keyword and begins with a low line. -/
theorem directiveHits_listed (tokens : List String) (u : LoadedUnit) :
    (∃ keys : List (ℕ × ℕ), keys.Pairwise (Prod.Lex (· < ·) (· < ·)) ∧
      (∀ key, key ∈ keys ↔ ∃ hit, SymbolHit tokens u.unit.directives key hit) ∧
      List.Forall₂ (SymbolHit tokens u.unit.directives) keys (directiveHits tokens u)) ∧
    ∀ text cond, TakenAsCondition text cond ↔
      IsCondition text cond ∨ GoesOnWithLowLine text cond := by
  have hat (key : ℕ × ℕ) (hit : Hit) :
      (u.unit.directives[key.1]?.bind fun d => symbolHitAt? tokens d key.2) = some hit ↔
        SymbolHit tokens u.unit.directives key hit := by
    simp only [Option.bind_eq_some_iff, symbolHitAt?_eq_some_iff]
    constructor
    · rintro ⟨d, hd, cond, symbol, hhit⟩
      exact ⟨d, cond, symbol, hd, hhit⟩
    · rintro ⟨d, cond, symbol, hd, hhit⟩
      exact ⟨d, hd, cond, symbol, hhit⟩
  choose keys hkeys using listedBy_directiveHitsAt tokens
  have hlisted := (listedBy_range u.unit.directives).flatMap hkeys
  refine ⟨⟨_, hlisted.inOrder, fun key => ?_, ?_⟩, fun text cond => takenAsCondition_iff⟩
  · rw [hlisted.mem_iff]
    exact exists_congr (hat key)
  · exact hlisted.forall₂.imp fun key hit => (hat key hit).mp

/-- A unit with one directive. -/
def directiveUnit (text : String) : LoadedUnit where
  unit :=
    { path := "D.cs"
      root := { kind := .compilationUnit, line := 1 }
      directives := [{ line := 1, text }] }

/-- A directive without a condition in which a symbol is reported. -/
theorem directiveHits_low_line :
    directiveHits ["WINDOWS"] (directiveUnit "#if_WINDOWS") =
        [{ line := 1, subject := "#if_WINDOWS", evidence := "_WINDOWS" }] ∧
      ¬∃ cond, IsCondition "#if_WINDOWS".toList cond := by
  refine ⟨by decide +kernel, ?_⟩
  rintro ⟨cond, hcond⟩
  have htaken := condition?_eq_some_iff.mpr (takenAsCondition_iff.mpr (.inl hcond))
  have hlow : condition? "#if_WINDOWS".toList = some "_WINDOWS".toList := by decide +kernel
  obtain rfl := Option.some.inj (hlow.symm.trans htaken)
  obtain ⟨word, -, -, -, hend⟩ := hcond
  exact (isIdentifierChar_eq_false_iff.mp (hend '_' rfl)).2 rfl

end PlatformAudit.Detect
