import PlatformAudit.Glob.Meaning
import PlatformAudit.Proofs.Pattern.Forms
import PlatformAudit.Proofs.Text.LatinCase

/-!
# Globs of plain text

In a glob most characters stand for themselves. A text of such characters is read as one literal
after the other, and matches the bytes of the text up to the case of Latin letters; a star matches
any bytes. So the glob of a text between two stars matches the paths in which the
bytes of the text occur (`PlatformAudit.Glob.compile_betweenStars`).

The glob of the empty text between two stars is a pair of stars, which is read in another way than
a star and a star, but it matches every path all the same.
-/

namespace PlatformAudit.Glob

open Pattern Text

/-! ### Reading -/

/-- The characters that do not stand for themselves outside a group. -/
def special : List Char :=
  ['*', '?', '[', '\x7b', '\x7d']

variable {fuel : ℕ} {prev : Option Char} {d : Draft} {c : Char} {cs : List Char}

theorem read_literal (hc : c ∉ special) (hd : d.groups = []) :
    read (fuel + 1) prev d (c :: cs) = read fuel (some c) (d.push [.literal c]) cs := by
  simp only [special, List.mem_cons, List.not_mem_nil, or_false, not_or] at hc
  obtain ⟨hstar, hany, hbracket, hopen, hclose⟩ := hc
  by_cases hcomma : c = ','
  · -- outside a group a comma is nothing special
    rw [hcomma, read, Draft.comma, hd]
  · rw [read]
    exacts [hany, hstar, hbracket, hopen, hclose, hcomma]

/-- A star that no other star follows. -/
theorem read_star (hcs : cs.head? ≠ some '*') :
    read (fuel + 1) prev d ('*' :: cs) = read fuel (some '*') (d.push [.many]) cs := by
  rw [read]
  rintro rest rfl
  exact hcs rfl

theorem Draft.push_push (d : Draft) (ts us : List Token) :
    (d.push ts).push us = d.push (ts ++ us) := by
  simp only [Draft.push, List.reverse_append, List.append_assoc]

/-- Tokens that are added to nothing are read off in their order. -/
theorem Draft.reverse_tokens_push (ts : List Token) : (Draft.push {} ts).tokens.reverse = ts := by
  simp only [Draft.push, List.append_nil, List.reverse_reverse]

/-- **A text of plain characters is read as one literal after the other.** -/
theorem read_literals (hcs : ∀ c ∈ cs, c ∉ special) (hd : d.groups = []) (fuel : ℕ)
    (prev : Option Char) (rest : List Char) :
    ∃ prev', read (cs.length + fuel) prev d (cs ++ rest) =
      read fuel prev' (d.push (cs.map .literal)) rest := by
  induction cs generalizing prev d with
  | nil =>
    rw [List.length_nil, Nat.zero_add]
    exact ⟨prev, rfl⟩
  | cons c cs ih =>
    obtain ⟨hc, hcs⟩ := List.forall_mem_cons.mp hcs
    have hpushed : (d.push [.literal c]).groups = [] := hd
    obtain ⟨prev', hread⟩ := ih hcs hpushed (some c)
    refine ⟨prev', ?_⟩
    rw [List.length_cons, Nat.succ_add, List.cons_append, read_literal hc hd, hread,
      Draft.push_push, List.map_cons, List.singleton_append]

/-- **A text between two stars is read as it is written**, unless it is empty. -/
theorem parse_betweenStars (hne : cs ≠ []) (hcs : ∀ c ∈ cs, c ∉ special) :
    parse ('*' :: (cs ++ ['*'])) = .ok (.many :: (cs.map .literal ++ [.many])) := by
  have hhead : (cs ++ ['*']).head? ≠ some '*' := by
    rw [List.head?_append_of_ne_nil _ hne]
    intro hstar
    exact hcs '*' (List.mem_of_mem_head? hstar) (by decide)
  have hlength : ('*' :: (cs ++ ['*'])).length = cs.length + 1 + 1 := by simp
  obtain ⟨prev, hliterals⟩ :=
    read_literals (d := Draft.push {} [.many]) hcs rfl 1 (some '*') ['*']
  have hlast : read 1 prev (Draft.push (Draft.push {} [.many]) (cs.map .literal)) ['*'] =
      .ok (Draft.push (Draft.push (Draft.push {} [.many]) (cs.map .literal)) [.many]) :=
    read_star (by simp)
  rw [parse, hlength, read_star hhead, hliterals, hlast, Draft.push_push, Draft.push_push]
  exact congrArg Except.ok (Draft.reverse_tokens_push _)

/-! ### Matching -/

variable {before part after : List UInt8} {ts : List Token}

theorem matches_anything : anything.Matches bytes before part after :=
  matches_many_symbol_iff.mpr ⟨Nat.zero_le _, fun _ _ => rfl⟩

theorem matches_literal_iff :
    (Token.literal c).pattern.Matches bytes before part after ↔
      part.map lowerByte = (String.utf8EncodeChar c).map lowerByte :=
  Expr.matches_sequence_symbols_iff fun _ _ => decide_eq_true_iff

/-- Literals match the bytes of their characters, up to the case of Latin letters. -/
theorem matches_literals_append_iff :
    (tokensPattern (cs.map .literal ++ ts)).Matches bytes before part after ↔
      ∃ p q, part = p ++ q ∧ p.map lowerByte = (utf8 cs).map lowerByte ∧
        (tokensPattern ts).Matches bytes (before ++ p) q after := by
  induction cs generalizing before part with
  | nil =>
    constructor
    · intro h
      exact ⟨[], part, rfl, rfl, by rwa [List.append_nil]⟩
    · rintro ⟨p, q, rfl, hp, hq⟩
      obtain rfl := List.map_eq_nil_iff.mp hp
      rwa [List.append_nil] at hq
  | cons c cs ih =>
    have hbytes : utf8 (c :: cs) = String.utf8EncodeChar c ++ utf8 cs := List.flatMap_cons
    constructor
    · rintro ⟨p, q, rfl, hp, hq⟩
      obtain ⟨p', q', rfl, hp', hq'⟩ := ih.mp hq
      refine ⟨p ++ p', q', by rw [List.append_assoc], ?_, by rwa [← List.append_assoc]⟩
      rw [hbytes, List.map_append, List.map_append, matches_literal_iff.mp hp, hp']
    · rintro ⟨p, q, rfl, hp, hq⟩
      rw [hbytes, List.map_append] at hp
      obtain ⟨p₁, p₂, rfl, hp₁, hp₂⟩ := List.map_eq_append_iff.mp hp
      refine ⟨p₁, p₂ ++ q, by rw [List.append_assoc], matches_literal_iff.mpr hp₁, ?_⟩
      exact ih.mpr ⟨p₂, q, rfl, hp₂, by rwa [List.append_assoc]⟩

theorem matches_betweenStars_iff :
    (tokensPattern (.many :: (cs.map .literal ++ [.many]))).Matches bytes before part after ↔
      (utf8 cs).map lowerByte <:+: part.map lowerByte := by
  constructor
  · rintro ⟨p, q, rfl, -, hq⟩
    obtain ⟨p', q', rfl, hp', -⟩ := matches_literals_append_iff.mp hq
    refine ⟨p.map lowerByte, q'.map lowerByte, ?_⟩
    rw [← hp', List.map_append, List.map_append, List.append_assoc]
  · rintro ⟨x, z, hpart⟩
    obtain ⟨xy, z', rfl, hxy, -⟩ := List.map_eq_append_iff.mp hpart.symm
    obtain ⟨x', y', rfl, -, hy⟩ := List.map_eq_append_iff.mp hxy
    refine ⟨x', y' ++ z', by rw [List.append_assoc], matches_anything, ?_⟩
    refine matches_literals_append_iff.mpr ⟨y', z', rfl, hy, ?_⟩
    exact ⟨z', [], (List.append_nil z').symm, matches_anything, rfl⟩

/-- **The glob of a text between two stars** matches the paths in which the bytes of the text
occur, up to the case of Latin letters. -/
theorem compile_betweenStars (hcs : ∀ c ∈ cs, c ∉ special) :
    ∃ p, compile ('*' :: (cs ++ ['*'])) = .ok p ∧ ∀ path, p.matchesPath path = true ↔
      (utf8 cs).map lowerByte <:+: (utf8 path).map lowerByte := by
  cases cs with
  | nil =>
    -- two stars alone match every path, in which the empty text occurs
    refine ⟨anything, rfl, fun path => ?_⟩
    rw [BytePattern.matchesPath, Expr.covers_iff]
    exact iff_of_true matches_anything (List.nil_infix ..)
  | cons c cs =>
    refine ⟨_, congrArg (meaning <$> ·) (parse_betweenStars (List.cons_ne_nil c cs) hcs), ?_⟩
    intro path
    rw [BytePattern.matchesPath, Expr.covers_iff]
    exact matches_betweenStars_iff

/-! ### Bytes of ASCII -/

/-- The byte of a character of ASCII. -/
def byteOf (c : Char) : UInt8 :=
  UInt8.ofNat c.toNat

/-- The character of ASCII with a byte. -/
def charOf (b : UInt8) : Char :=
  Char.ofNat b.toNat

theorem utf8EncodeChar_of_ascii (h : c.toNat < 128) : String.utf8EncodeChar c = [byteOf c] := by
  have hnat : c.val.toNat = c.toNat := rfl
  rw [String.utf8EncodeChar, hnat]
  exact if_pos (Nat.le_of_lt_succ h)

theorem charOf_byteOf (h : c.toNat < 128) : charOf (byteOf c) = c := by
  have hnat : (byteOf c).toNat = c.toNat := by
    rw [byteOf, UInt8.toNat_ofNat']
    omega
  rw [charOf, hnat, Char.ofNat_toNat]

theorem lowerByte_byteOf (h : c.toNat < 128) : lowerByte (byteOf c) = byteOf (asciiLower c) := by
  have hall : ∀ n < 128, lowerByte (UInt8.ofNat n) =
      UInt8.ofNat (if 65 ≤ n ∧ n ≤ 90 then n + 32 else n) := by decide
  rw [byteOf, hall c.toNat h, byteOf, toNat_asciiLower]

theorem map_lowerByte_utf8 (h : IsAscii cs) :
    (utf8 cs).map lowerByte = (cs.map asciiLower).map byteOf := by
  have hutf8 : utf8 cs = cs.map byteOf := by
    rw [← List.flatMap_pure_eq_map]
    exact List.flatMap_congr fun c hc => utf8EncodeChar_of_ascii (h c hc)
  rw [hutf8, List.map_map, List.map_map]
  exact List.map_congr_left fun c hc => lowerByte_byteOf (h c hc)

theorem map_charOf_byteOf (h : IsAscii cs) :
    ((cs.map asciiLower).map byteOf).map charOf = cs.map asciiLower := by
  rw [List.map_map, List.map_map]
  exact List.map_congr_left fun c hc => charOf_byteOf (asciiLower_lt (h c hc))

/-- **In ASCII, bytes occur where their characters do.** -/
theorem bytes_isInfix_iff {ds : List Char} (hcs : IsAscii cs) (hds : IsAscii ds) :
    (utf8 cs).map lowerByte <:+: (utf8 ds).map lowerByte ↔
      cs.map asciiLower <:+: ds.map asciiLower := by
  rw [map_lowerByte_utf8 hcs, map_lowerByte_utf8 hds]
  constructor
  · intro h
    have hback := h.map charOf
    rwa [map_charOf_byteOf hcs, map_charOf_byteOf hds] at hback
  · intro h
    exact h.map byteOf

end PlatformAudit.Glob
