import PlatformAudit.Json.Printer
import PlatformAudit.Proofs.Decimal.Digits

/-!
# What is written is read back

A value that has no gap and no fault in it, whose strings are escaped where they have
to be and whose numbers begin with no superfluous zero is **written**
(`PlatformAudit.Json.Value.Written`): it is the value of some text, and reading its own
text gives it back, to the last escape and the last digit
(`PlatformAudit.Json.Document.read_toText`). Nothing is said here about what the value
means, and nesting is not limited.

A reader cannot know that a number has ended before it sees what follows, so every
statement about a part of a text says what may follow that part. The proof for values
goes by the reader's fuel: three steps for each character are enough
(`PlatformAudit.Json.ReadsBack`).
-/

namespace PlatformAudit.Json

open Decimal Text

/-! ### Numbers -/

/-- A number that begins with no superfluous zero, and has digits wherever it must. -/
structure Numeral.Written (n : Numeral) : Prop where
  whole_ne_nil : n.whole ≠ []
  leading : ∀ ds, n.whole = 0 :: ds → ds = []
  exponent_ne_nil : ∀ e ∈ n.exponent, e.digits ≠ []

/-- A text that does not go on with a number. -/
def EndsNumber (cs : List Char) : Prop :=
  ∀ c ∈ cs.head?, Digit.ofChar? c = none ∧ c ≠ '.' ∧ c ≠ 'e' ∧ c ≠ 'E'

theorem EndsNumber.endsDigits {cs : List Char} (h : EndsNumber cs) : EndsDigits cs :=
  fun c hc => (h c hc).1

theorem endsNumber_nil : EndsNumber [] := by
  intro c hc
  cases hc

theorem endsNumber_cons {c : Char} {cs : List Char}
    (h : Digit.ofChar? c = none ∧ c ≠ '.' ∧ c ≠ 'e' ∧ c ≠ 'E') : EndsNumber (c :: cs) := by
  intro d hd
  obtain rfl := Option.some.inj hd
  exact h

theorem readDigits_append {ds : List Digit} (hds : ds ≠ []) {rest : List Char}
    (h : EndsDigits rest) : readDigits (ds.map Digit.char ++ rest) = .ok (ds, rest) := by
  rw [readDigits, takeDigits_append ds h]
  cases ds with
  | nil => exact absurd rfl hds
  | cons d ds => rfl

theorem readWhole_append {ds : List Digit} (hds : ds ≠ []) (hzero : ∀ es, ds = 0 :: es → es = [])
    {rest : List Char} (h : EndsDigits rest) :
    readWhole (ds.map Digit.char ++ rest) = .ok (ds, rest) := by
  have hread := readDigits_append hds h
  simp only [readWhole, hread, bind, Except.bind]
  split
  next e es =>
    exact absurd (hzero (e :: es) rfl) (List.cons_ne_nil e es)
  next => rfl

namespace Numeral

/-- The decimals of a number as they are written. -/
def fractionText (n : Numeral) : List Char :=
  if n.fraction.isEmpty then [] else '.' :: n.fraction.map Digit.char

/-- The exponent of a number as it is written, if it has one. -/
def exponentPart (n : Numeral) : List Char :=
  (n.exponent.map exponentText).getD []

theorem readExponent_append {n : Numeral} (hn : n.Written) {rest : List Char}
    (h : EndsNumber rest) : readExponent (n.exponentPart ++ rest) = .ok (n.exponent, rest) := by
  rw [exponentPart]
  cases hexp : n.exponent with
  | none =>
    cases rest with
    | nil => rfl
    | cons c cs =>
      obtain ⟨-, -, he, hE⟩ := h c rfl
      simp [readExponent, he, hE]
  | some e =>
    have hread := readDigits_append (hn.exponent_ne_nil e hexp) h.endsDigits
    obtain ⟨negative, ds⟩ := e
    cases negative <;>
      simp [exponentText, readExponent, readSign, hread, bind, Except.bind, pure, Except.pure]

/-- After its decimals a number goes on with an exponent or ends. -/
theorem endsDigits_exponent (n : Numeral) {rest : List Char} (h : EndsNumber rest) :
    EndsDigits (n.exponentPart ++ rest) ∧ (n.exponentPart ++ rest).head? ≠ some '.' := by
  rw [exponentPart]
  cases n.exponent with
  | none =>
    refine ⟨h.endsDigits, fun hdot => ?_⟩
    exact (h '.' hdot).2.1 rfl
  | some e =>
    refine ⟨?_, by simp [exponentText]⟩
    intro c hc
    obtain rfl : 'e' = c := by simpa [exponentText] using hc
    decide

theorem readFraction_append (n : Numeral) {rest : List Char} (hdigits : EndsDigits rest)
    (hdot : rest.head? ≠ some '.') :
    readFraction (n.fractionText ++ rest) = .ok (n.fraction, rest) := by
  rw [fractionText]
  cases hfraction : n.fraction with
  | nil =>
    rw [List.isEmpty_nil, if_pos rfl, List.nil_append, readFraction]
    intro cs hcs
    rw [hcs] at hdot
    exact hdot rfl
  | cons d ds =>
    rw [List.isEmpty_cons, if_neg Bool.false_ne_true, List.cons_append, readFraction]
    exact readDigits_append (List.cons_ne_nil d ds) hdigits

/-- After its whole digits a number goes on with a point or an exponent, or ends. -/
theorem endsDigits_fraction (n : Numeral) {rest : List Char} (h : EndsDigits rest) :
    EndsDigits (n.fractionText ++ rest) := by
  rw [fractionText]
  split
  · exact h
  · intro c hc
    obtain rfl : '.' = c := by simpa using hc
    decide

theorem readUnsigned_append {n : Numeral} (hn : n.Written) {rest : List Char}
    (h : EndsNumber rest) :
    readUnsigned n.negative
        (n.whole.map Digit.char ++ (n.fractionText ++ (n.exponentPart ++ rest))) =
      .ok (n, rest) := by
  obtain ⟨hexp, hdot⟩ := n.endsDigits_exponent h
  have hwhole := readWhole_append hn.whole_ne_nil hn.leading (n.endsDigits_fraction hexp)
  have hfraction := n.readFraction_append hexp hdot
  have hexponent := readExponent_append hn h
  simp only [readUnsigned, hwhole, hfraction, hexponent, bind, Except.bind]
  rfl

theorem text_eq (n : Numeral) :
    n.text = (if n.negative then ['-'] else []) ++
      (n.whole.map Digit.char ++ (n.fractionText ++ n.exponentPart)) := by
  simp only [text, fractionText, exponentPart, List.append_assoc]

/-- A written number begins with a sign or a digit. -/
theorem Written.text_eq_cons {n : Numeral} (hn : n.Written) :
    ∃ c cs, n.text = c :: cs ∧ (c = '-' ∨ (Digit.ofChar? c).isSome) := by
  obtain ⟨d, ds, hwhole⟩ := List.exists_cons_of_ne_nil hn.whole_ne_nil
  rw [text_eq, hwhole]
  cases n.negative with
  | true => exact ⟨'-', _, rfl, Or.inl rfl⟩
  | false => exact ⟨d.char, _, rfl, Or.inr (by rw [Digit.ofChar?_char]; rfl)⟩

/-- **A number is read back from its text.** -/
theorem readNumeral_append {n : Numeral} (hn : n.Written) {rest : List Char}
    (h : EndsNumber rest) : readNumeral (n.text ++ rest) = .ok (n, rest) := by
  have hread := readUnsigned_append hn h
  rw [text_eq, List.append_assoc, List.append_assoc, List.append_assoc]
  cases hneg : n.negative with
  | true =>
    rw [hneg] at hread
    exact hread
  | false =>
    rw [hneg] at hread
    obtain ⟨d, ds, hwhole⟩ := List.exists_cons_of_ne_nil hn.whole_ne_nil
    have hminus : d.char ≠ '-' := by
      intro hd
      have hsome := Digit.ofChar?_char d
      rw [hd] at hsome
      have hnone : Digit.ofChar? '-' = none := by decide
      rw [hnone] at hsome
      cases hsome
    rw [hwhole] at hread ⊢
    simp only [Bool.false_eq_true, if_false, List.nil_append, List.map_cons, List.cons_append]
      at hread ⊢
    rw [readNumeral]
    · exact hread
    · intro cs hcs
      exact hminus (List.cons.inj hcs).1

/-- A natural number is written with no superfluous zero. -/
theorem written_ofNat (n : Nat) : (ofNat n).Written where
  whole_ne_nil := digits_ne_nil n
  leading ds hds := by
    rcases digits_eq_cons n with ⟨-, hzero⟩ | ⟨-, d, es, hdigits, hd⟩
    · have heq : (0 : Digit) :: ds = [0] := hds.symm.trans hzero
      exact (List.cons.inj heq).2
    · have heq : (0 : Digit) :: ds = d :: es := hds.symm.trans hdigits
      exact absurd (List.cons.inj heq).1.symm hd
  exponent_ne_nil := by
    intro e he
    cases he

end Numeral

/-! ### Strings -/

/-- A piece of a string that has the escape it needs and no other. -/
def Piece.Written : Piece → Prop
  | .plain c => c ≠ '"' ∧ c ≠ '\\' ∧ 0x20 ≤ c.toNat
  | .short c => shortLetter c ≠ 'u' ∧ shortEscape? (shortLetter c) = some c
  | .unit _ => True

/-- A string that is closed and made of such pieces. -/
structure Literal.Written (s : Literal) : Prop where
  pieces : ∀ p ∈ s.pieces, p.Written
  closed : s.defect = none

theorem hexDigit?_hexChar {k : Nat} (h : k < 16) : hexDigit? (hexChar k) = some k := by
  have hall : ∀ k < 16, hexDigit? (hexChar k) = some k := by decide
  exact hall k h

theorem codeUnit?_hexUnit (code : UInt16) :
    codeUnit? (hexChar (code.toNat / 4096 % 16)) (hexChar (code.toNat / 256 % 16))
      (hexChar (code.toNat / 16 % 16)) (hexChar (code.toNat % 16)) = some code := by
  have hlt := code.toNat_lt
  have hsum : 4096 * (code.toNat / 4096 % 16) + 256 * (code.toNat / 256 % 16) +
      16 * (code.toNat / 16 % 16) + code.toNat % 16 = code.toNat := by
    omega
  simp only [codeUnit?, hexDigit?_hexChar (Nat.mod_lt _ (by decide : 0 < 16)), bind, Option.bind,
    pure, hsum]
  exact congrArg some (UInt16.ofNat_toNat)

/-- A written piece is read as the piece that it is, whatever follows. -/
theorem readLiteral_piece {p : Piece} (hp : p.Written) (cs : List Char) :
    readLiteral (p.render ++ cs) = prepend p (readLiteral cs) := by
  cases p with
  | plain c =>
    obtain ⟨hquote, hslash, hcontrol⟩ := hp
    have hplain : ¬c.toNat < 0x20 := Nat.not_lt.mpr hcontrol
    rw [Piece.render, List.singleton_append, readLiteral, if_neg hplain]
    · exact hquote
    · exact fun _ _ _ _ _ hc => absurd hc hslash
    · exact fun _ hc => absurd hc hslash
    · exact fun _ _ hc => absurd hc hslash
    · exact fun hc => absurd hc hslash
  | short c =>
    obtain ⟨hu, hc⟩ := hp
    rw [Piece.render, List.cons_append, List.singleton_append, readLiteral, hc]
    · exact fun _ _ _ _ _ he => absurd he hu
    · exact hu
  | unit code =>
    rw [Piece.render, hexUnit]
    simp only [List.cons_append, List.nil_append]
    rw [readLiteral, codeUnit?_hexUnit]

/-- **A string is read back from its text**, whatever follows. -/
theorem Literal.Written.readLiteral_append {s : Literal} (hs : s.Written) (rest : List Char) :
    readLiteral (s.pieces.flatMap Piece.render ++ '"' :: rest) = (s, rest) := by
  obtain ⟨pieces, defect⟩ := s
  obtain ⟨hpieces, hclosed⟩ := hs
  cases hclosed
  change readLiteral (pieces.flatMap Piece.render ++ '"' :: rest) = _
  induction pieces with
  | nil => rfl
  | cons p ps ih =>
    obtain ⟨hp, hps⟩ := List.forall_mem_cons.mp hpieces
    rw [List.flatMap_cons, List.append_assoc, readLiteral_piece hp, ih hps]
    rfl

theorem Literal.Written.render_eq {s : Literal} (hs : s.Written) :
    s.render = '"' :: (s.pieces.flatMap Piece.render ++ ['"']) := by
  rw [render, fault, hs.closed]
  rfl

/-- A text is written with the escapes it needs and no others. -/
theorem Literal.written_ofString (s : String) : (ofString s).Written where
  pieces p hp := by
    obtain ⟨c, -, rfl⟩ := List.mem_map.mp hp
    rw [pieceOf]
    split
    next hshort =>
      rcases hshort with rfl | rfl | rfl | rfl | rfl | rfl | rfl <;> exact ⟨by decide, by decide⟩
    next hplain =>
      split
      next hcontrol => exact trivial
      next hcontrol =>
        exact ⟨fun hc => hplain (Or.inl hc), fun hc => hplain (Or.inr (Or.inl hc)),
          Nat.le_of_not_lt hcontrol⟩
  closed := rfl

/-! ### Values -/

mutual

/-- A value without gaps and faults, made of written strings and numbers. -/
def Value.Written : Value → Prop
  | .null | .bool _ => True
  | .number n => n.Written
  | .string s => s.Written
  | .array items fault => ItemsWritten items ∧ fault = none
  | .object fields fault => FieldsWritten fields ∧ fault = none
  | .gap _ => False

/-- Items of an array that all are written. -/
def ItemsWritten : List Value → Prop
  | [] => True
  | v :: vs => v.Written ∧ ItemsWritten vs

/-- Fields of an object whose keys and values all are written. -/
def FieldsWritten : List (Literal × Value) → Prop
  | [] => True
  | (key, v) :: fs => key.Written ∧ v.Written ∧ FieldsWritten fs

end

theorem itemsWritten_iff {vs : List Value} : ItemsWritten vs ↔ ∀ v ∈ vs, v.Written := by
  induction vs with
  | nil => simp [ItemsWritten]
  | cons v vs ih => simp [ItemsWritten, ih]

theorem fieldsWritten_iff {fs : List (Literal × Value)} :
    FieldsWritten fs ↔ ∀ f ∈ fs, f.1.Written ∧ f.2.Written := by
  induction fs with
  | nil => simp [FieldsWritten]
  | cons f fs ih => simp [FieldsWritten, ih, and_assoc]

/-- The items of an array after the first, and its end. -/
def moreItems (vs : List Value) : List Char :=
  (vs.flatMap fun v => ',' :: v.render) ++ [']']

/-- A field as it is written, without the opening quote of its key. -/
def fieldText (f : Literal × Value) : List Char :=
  f.1.pieces.flatMap Piece.render ++ '"' :: ':' :: f.2.render

/-- The fields of an object after the first, and its end. -/
def moreFields (fs : List (Literal × Value)) : List Char :=
  (fs.flatMap fun f => ',' :: '"' :: fieldText f) ++ ['\x7d']

theorem moreItems_cons (v : Value) (vs : List Value) :
    moreItems (v :: vs) = ',' :: (v.render ++ moreItems vs) := by
  simp [moreItems]

theorem moreFields_cons (f : Literal × Value) (fs : List (Literal × Value)) :
    moreFields (f :: fs) = ',' :: '"' :: (fieldText f ++ moreFields fs) := by
  simp [moreFields]

theorem renderItems_cons (v : Value) (vs : List Value) :
    renderItems (v :: vs) ++ [']'] = v.render ++ moreItems vs := by
  induction vs generalizing v with
  | nil => rfl
  | cons w vs ih => rw [renderItems, List.append_assoc, List.cons_append, ih, moreItems_cons]

theorem renderFields_cons {f : Literal × Value} {fs : List (Literal × Value)}
    (h : ∀ g ∈ f :: fs, g.1.Written) :
    renderFields (f :: fs) ++ ['\x7d'] = '"' :: (fieldText f ++ moreFields fs) := by
  induction fs generalizing f with
  | nil =>
    have hkey := (h f List.mem_cons_self).render_eq
    rw [renderFields, hkey, fieldText, moreFields]
    simp
  | cons g fs ih =>
    obtain ⟨hf, hrest⟩ := List.forall_mem_cons.mp h
    rw [renderFields, hf.render_eq, fieldText, moreFields_cons, ← ih hrest]
    simp

/-- What follows an item or a field cannot be the rest of a number. -/
theorem endsNumber_moreItems (vs : List Value) (rest : List Char) :
    EndsNumber (moreItems vs ++ rest) := by
  cases vs with
  | nil => exact endsNumber_cons (by decide)
  | cons v vs =>
    rw [moreItems_cons]
    exact endsNumber_cons (by decide)

theorem endsNumber_moreFields (fs : List (Literal × Value)) (rest : List Char) :
    EndsNumber (moreFields fs ++ rest) := by
  cases fs with
  | nil => exact endsNumber_cons (by decide)
  | cons f fs =>
    rw [moreFields_cons]
    exact endsNumber_cons (by decide)

theorem skipSpacing_cons {c : Char} (h : isSpacing c = false) (cs : List Char) :
    skipSpacing (c :: cs) = c :: cs := by
  rw [skipSpacing, List.dropWhile_cons_of_neg (by rw [h]; exact Bool.false_ne_true)]

/-- What a number begins with begins nothing else. -/
theorem beginsNumber_ne {c : Char} (h : c = '-' ∨ (Digit.ofChar? c).isSome) :
    isSpacing c = false ∧ c ≠ 'n' ∧ c ≠ 't' ∧ c ≠ 'f' ∧ c ≠ '"' ∧ c ≠ '[' ∧ c ≠ '\x7b' ∧
      c ≠ ']' := by
  have hne : ∀ d : Char, d ≠ '-' → Digit.ofChar? d = none → c ≠ d := by
    rintro d hminus hdigit rfl
    rcases h with h | h
    · exact hminus h
    · rw [hdigit] at h
      cases h
  refine ⟨?_, ?_, ?_, ?_, ?_, ?_, ?_, ?_⟩
  · simp only [isSpacing, Bool.or_eq_false_iff, decide_eq_false_iff_not]
    exact ⟨⟨⟨hne _ (by decide) (by decide), hne _ (by decide) (by decide)⟩,
      hne _ (by decide) (by decide)⟩, hne _ (by decide) (by decide)⟩
  all_goals exact hne _ (by decide) (by decide)

theorem readValue_number (fuel : Nat) {c : Char} (hc : c = '-' ∨ (Digit.ofChar? c).isSome)
    (cs : List Char) {n : Numeral} {rest : List Char}
    (h : readNumeral (c :: cs) = .ok (n, rest)) :
    readValue (fuel + 1) (c :: cs) = (.number n, rest) := by
  obtain ⟨hspace, hn, ht, hf, hquote, hbracket, hbrace, -⟩ := beginsNumber_ne hc
  rw [readValue, skipSpacing_cons hspace]
  simp only [hc, if_true, h]

/-- The first character of a written value is no blank and closes no array. -/
theorem Value.Written.render_eq_cons {v : Value} (h : v.Written) :
    ∃ c cs, v.render = c :: cs ∧ isSpacing c = false ∧ c ≠ ']' := by
  cases v with
  | null => exact ⟨_, _, rfl, by decide, by decide⟩
  | bool b => cases b <;> exact ⟨_, _, rfl, by decide, by decide⟩
  | number n =>
    have hn : n.Written := h
    obtain ⟨c, cs, htext, hc⟩ := hn.text_eq_cons
    obtain ⟨hspace, -, -, -, -, -, -, hbracket⟩ := beginsNumber_ne hc
    exact ⟨c, cs, htext, hspace, hbracket⟩
  | string s => exact ⟨_, _, rfl, by decide, by decide⟩
  | array items fault => exact ⟨_, _, rfl, by decide, by decide⟩
  | object fields fault => exact ⟨_, _, rfl, by decide, by decide⟩
  | gap g => cases h

/-- **The invariant of reading**: with three steps for each character of its text, every part of a
written value is read back and the text after it is left. -/
structure ReadsBack (fuel : Nat) : Prop where
  value : ∀ {v : Value} {rest : List Char}, v.Written → EndsNumber rest →
    3 * v.render.length ≤ fuel → readValue fuel (v.render ++ rest) = (v, rest)
  items : ∀ {vs : List Value} (rest : List Char), ItemsWritten vs →
    3 * (moreItems vs).length ≤ fuel + 2 → readItems fuel (moreItems vs ++ rest) = (vs, none, rest)
  field : ∀ {f : Literal × Value} {rest : List Char}, f.1.Written → f.2.Written → EndsNumber rest →
    3 * (fieldText f).length ≤ fuel + 2 → readField fuel (fieldText f ++ rest) = (f, rest)
  fields : ∀ {fs : List (Literal × Value)} (rest : List Char), FieldsWritten fs →
    3 * (moreFields fs).length ≤ fuel + 2 →
      readFields fuel (moreFields fs ++ rest) = (fs, none, rest)

namespace ReadsBack

variable {fuel : Nat}

theorem value_step (h : ReadsBack fuel) {v : Value} {rest : List Char} (hv : v.Written)
    (hrest : EndsNumber rest) (hfuel : 3 * v.render.length ≤ fuel + 1) :
    readValue (fuel + 1) (v.render ++ rest) = (v, rest) := by
  cases v with
  | null => rfl
  | bool b => cases b <;> rfl
  | number n =>
    have hn : n.Written := hv
    obtain ⟨c, cs, htext, hc⟩ := hn.text_eq_cons
    have hread := Numeral.readNumeral_append hn hrest
    rw [Value.render]
    rw [htext, List.cons_append] at hread ⊢
    exact readValue_number fuel hc _ hread
  | string s =>
    have hs : s.Written := hv
    have hread := hs.readLiteral_append rest
    rw [Value.render, hs.render_eq, List.cons_append, List.append_assoc, List.singleton_append,
      readValue, skipSpacing_cons (by decide)]
    simp only [hread]
  | array items fault =>
    obtain ⟨hitems, rfl⟩ : ItemsWritten items ∧ fault = none := hv
    cases items with
    | nil => rfl
    | cons v vs =>
      obtain ⟨hv, hvs⟩ : v.Written ∧ ItemsWritten vs := hitems
      have htext : (Value.array (v :: vs) none).render = '[' :: (v.render ++ moreItems vs) := by
        rw [← renderItems_cons, Value.render]
        rfl
      rw [htext] at hfuel ⊢
      simp only [List.length_cons, List.length_append] at hfuel
      have hitem := h.value hv (endsNumber_moreItems vs rest) (by omega)
      have hmore := h.items rest hvs (by omega)
      -- the array is not empty, since its first item does not begin with a closing bracket
      obtain ⟨c, cs, hrender, hspace, hclose⟩ := hv.render_eq_cons
      rw [List.cons_append, List.append_assoc, readValue, skipSpacing_cons (by decide)]
      rw [hrender, List.cons_append] at hitem ⊢
      simp only [skipSpacing_cons hspace]
      split
      next hempty => cases hempty
      next hempty => exact absurd (List.cons.inj hempty).1 hclose
      next => simp only [hitem, hmore]
  | object fields fault =>
    obtain ⟨hfields, rfl⟩ : FieldsWritten fields ∧ fault = none := hv
    cases fields with
    | nil => rfl
    | cons f fs =>
      obtain ⟨hkey, hv, hfs⟩ : f.1.Written ∧ f.2.Written ∧ FieldsWritten fs := hfields
      have hkeys : ∀ g ∈ f :: fs, g.1.Written :=
        List.forall_mem_cons.mpr ⟨hkey, fun g hg => (fieldsWritten_iff.mp hfs g hg).1⟩
      have htext : (Value.object (f :: fs) none).render =
          '\x7b' :: '"' :: (fieldText f ++ moreFields fs) := by
        rw [← renderFields_cons hkeys, Value.render]
        rfl
      rw [htext] at hfuel ⊢
      simp only [List.length_cons, List.length_append] at hfuel
      have hfield := h.field hkey hv (endsNumber_moreFields fs rest) (by omega)
      have hmore := h.fields rest hfs (by omega)
      rw [List.cons_append, List.cons_append, List.append_assoc, readValue,
        skipSpacing_cons (by decide)]
      simp only [skipSpacing_cons (show isSpacing '"' = false by decide), hfield, hmore]
  | gap g => cases hv

theorem items_step (h : ReadsBack fuel) {vs : List Value} (rest : List Char)
    (hvs : ItemsWritten vs) (hfuel : 3 * (moreItems vs).length ≤ fuel + 3) :
    readItems (fuel + 1) (moreItems vs ++ rest) = (vs, none, rest) := by
  cases vs with
  | nil => rfl
  | cons v vs =>
    obtain ⟨hv, hvs⟩ : v.Written ∧ ItemsWritten vs := hvs
    rw [moreItems_cons] at hfuel ⊢
    simp only [List.length_cons, List.length_append] at hfuel
    have hitem := h.value hv (endsNumber_moreItems vs rest) (by omega)
    have hmore := h.items rest hvs (by omega)
    rw [List.cons_append, List.append_assoc, readItems, skipSpacing_cons (by decide)]
    simp only [hitem, hmore]

theorem field_step (h : ReadsBack fuel) {f : Literal × Value} {rest : List Char}
    (hkey : f.1.Written) (hv : f.2.Written) (hrest : EndsNumber rest)
    (hfuel : 3 * (fieldText f).length ≤ fuel + 3) :
    readField (fuel + 1) (fieldText f ++ rest) = (f, rest) := by
  simp only [fieldText, List.length_cons, List.length_append] at hfuel
  have hvalue := h.value hv hrest (by omega)
  have hread := hkey.readLiteral_append (':' :: (f.2.render ++ rest))
  have hcolon : readColon (':' :: (f.2.render ++ rest)) = .ok (f.2.render ++ rest) := rfl
  have hfault : f.1.fault = none := by rw [Literal.fault, hkey.closed]; rfl
  rw [fieldText, List.append_assoc, List.cons_append, List.cons_append, readField]
  simp only [hread, hfault, hcolon, hvalue]

theorem fields_step (h : ReadsBack fuel) {fs : List (Literal × Value)} (rest : List Char)
    (hfs : FieldsWritten fs) (hfuel : 3 * (moreFields fs).length ≤ fuel + 3) :
    readFields (fuel + 1) (moreFields fs ++ rest) = (fs, none, rest) := by
  cases fs with
  | nil => rfl
  | cons f fs =>
    obtain ⟨hkey, hv, hfs⟩ : f.1.Written ∧ f.2.Written ∧ FieldsWritten fs := hfs
    rw [moreFields_cons] at hfuel ⊢
    simp only [List.length_cons, List.length_append] at hfuel
    have hfield := h.field hkey hv (endsNumber_moreFields fs rest) (by omega)
    have hmore := h.fields rest hfs (by omega)
    rw [List.cons_append, List.cons_append, List.append_assoc, readFields,
      skipSpacing_cons (by decide)]
    simp only [skipSpacing_cons (show isSpacing '"' = false by decide), hfield, hmore]

end ReadsBack

/-- **Every amount of fuel reads back what it is enough for.** -/
theorem readsBack (fuel : Nat) : ReadsBack fuel := by
  induction fuel with
  | zero =>
    -- no part of a value has an empty text
    refine ⟨fun {v rest} hv _ hfuel => ?_, fun {vs} rest _ hfuel => ?_,
      fun {f rest} _ _ _ hfuel => ?_, fun {fs} rest _ hfuel => ?_⟩
    · obtain ⟨c, cs, hrender, -, -⟩ := hv.render_eq_cons
      rw [hrender, List.length_cons] at hfuel
      omega
    · rw [moreItems, List.length_append, List.length_singleton] at hfuel
      omega
    · rw [fieldText, List.length_append, List.length_cons] at hfuel
      omega
    · rw [moreFields, List.length_append, List.length_singleton] at hfuel
      omega
  | succ fuel ih => exact ⟨ih.value_step, ih.items_step, ih.field_step, ih.fields_step⟩

/-- **A written value is read back from its text**, and nothing is left over. -/
theorem Document.read_toText {v : Value} (h : v.Written) :
    Document.read v.toText = { root := v, clean := true } := by
  have hvalue : readValue (3 * v.render.length + 3) v.render = (v, []) := by
    have hread := (readsBack (3 * v.render.length + 3)).value h endsNumber_nil (by omega)
    rwa [List.append_nil] at hread
  rw [Document.read, Value.toText, String.toList_ofList]
  simp only [hvalue]
  rfl

end PlatformAudit.Json
