import PlatformAudit.Json.Value
import PlatformAudit.Text.Hexadecimal
import PlatformAudit.Text.Segment

/-!
# Reading a document

A text is read from left to right into a `Value`. Reading never fails: at the
first character that no document could have there, the value read so far is
closed with a gap or a fault and the rest of the text is dropped. Nesting is not
limited here; who checks the content decides how deep it goes.

The grammar is the strict one: no comments, no trailing commas, no leading
zeros, no bare control characters in strings.
-/

namespace PlatformAudit.Json

open Decimal Text

/-- The blanks that may stand between tokens. -/
def isSpacing (c : Char) : Bool :=
  c = ' ' || c = '\n' || c = '\t' || c = '\r'

/-- Drops leading blanks. -/
def skipSpacing (cs : List Char) : List Char :=
  cs.dropWhile isSpacing

/-! ### Words -/

/-- Reads the remaining letters of a word that stands for `v`. -/
def readWord (v : Value) : (word text : List Char) → Value × List Char
  | [], cs => (v, cs)
  | _ :: _, [] => (.gap .cutWord, [])
  | w :: ws, c :: cs => if w = c then readWord v ws cs else (.gap .malformed, [])

/-! ### Numbers -/

/-- Reads digits of which there must be at least one. -/
def readDigits (cs : List Char) : Except Gap (List Digit × List Char) :=
  match takeDigits cs with
  | ([], []) => .error .cutNumber
  | ([], _ :: _) => .error .malformed
  | (ds, rest) => .ok (ds, rest)

/-- Reads the whole digits of a number: a zero alone, or digits that do not begin with one. -/
def readWhole (cs : List Char) : Except Gap (List Digit × List Char) := do
  let (ds, rest) ← readDigits cs
  match ds with
  | 0 :: _ :: _ => throw .malformed
  | _ => return (ds, rest)

/-- Reads the fraction of a number, if it has one. -/
def readFraction : List Char → Except Gap (List Digit × List Char)
  | '.' :: cs => readDigits cs
  | cs => .ok ([], cs)

/-- Reads the sign of an exponent, if it has one. -/
def readSign : List Char → Bool × List Char
  | '-' :: cs => (true, cs)
  | '+' :: cs => (false, cs)
  | cs => (false, cs)

/-- Reads the exponent of a number, if it has one. -/
def readExponent : List Char → Except Gap (Option Exponent × List Char)
  | c :: cs =>
    if c = 'e' ∨ c = 'E' then do
      let (negative, cs) := readSign cs
      let (ds, rest) ← readDigits cs
      return (some ⟨negative, ds⟩, rest)
    else .ok (none, c :: cs)
  | [] => .ok (none, [])

/-- Reads a number after its sign. -/
def readUnsigned (negative : Bool) (cs : List Char) : Except Gap (Numeral × List Char) := do
  let (whole, cs) ← readWhole cs
  let (fraction, cs) ← readFraction cs
  let (exponent, cs) ← readExponent cs
  return ({ negative, whole, fraction, exponent }, cs)

/-- Reads a number. -/
def readNumeral : List Char → Except Gap (Numeral × List Char)
  | '-' :: cs => readUnsigned true cs
  | cs => readUnsigned false cs

/-! ### Strings -/

/-- The code unit that four hexadecimal digits stand for. -/
def codeUnit? (a b c d : Char) : Option UInt16 := do
  let a ← hexDigit? a
  let b ← hexDigit? b
  let c ← hexDigit? c
  let d ← hexDigit? d
  return (4096 * a + 256 * b + 16 * c + d).toUInt16

/-- The character that a letter after a backslash stands for. -/
def shortEscape? : Char → Option Char
  | '"' => some '"'
  | '\\' => some '\\'
  | '/' => some '/'
  | 'b' => some '\x08'
  | 'f' => some '\x0c'
  | 'n' => some '\n'
  | 'r' => some '\r'
  | 't' => some '\t'
  | _ => none

/-- A string that ends at a fault. -/
def stopLiteral (f : LiteralFault) : Literal × List Char :=
  ({ pieces := [], defect := some f }, [])

/-- A string with one more piece in front. -/
def prepend (p : Piece) (read : Literal × List Char) : Literal × List Char :=
  ({ read.1 with pieces := p :: read.1.pieces }, read.2)

/-- How an escape goes wrong that has fewer than four characters left: four bytes that are no
digits are malformed, fewer bytes are cut off. -/
def shortfall (cs : List Char) : LiteralFault :=
  if byteLength cs < 4 then .cutEscape else .malformed

/-- Reads a string after its opening quote. -/
def readLiteral : List Char → Literal × List Char
  | [] => stopLiteral .ended
  | '"' :: cs => ({ pieces := [] }, cs)
  | '\\' :: 'u' :: a :: b :: c :: d :: cs =>
    match codeUnit? a b c d with
    | some code => prepend (.unit code) (readLiteral cs)
    | none => stopLiteral .malformed
  | '\\' :: 'u' :: cs => stopLiteral (shortfall cs)
  | '\\' :: e :: cs =>
    match shortEscape? e with
    | some c => prepend (.short c) (readLiteral cs)
    | none => stopLiteral .malformed
  | '\\' :: [] => stopLiteral .cutEscape
  | c :: cs =>
    if c.toNat < 0x20 then stopLiteral .malformed else prepend (.plain c) (readLiteral cs)

/-! ### Arrays and objects -/

/-- Reads the colon after a key; what follows it, or the gap in place of the value. -/
def readColon (cs : List Char) : Except Gap (List Char) :=
  match skipSpacing cs with
  | ':' :: cs => .ok cs
  | [] => .error .absent
  | _ :: _ => .error .malformed

mutual

/-- Reads a value and gives what follows it. -/
def readValue : (fuel : Nat) → List Char → Value × List Char
  | 0, _ => (.gap .malformed, [])
  | fuel + 1, cs =>
    match skipSpacing cs with
    | [] => (.gap .absent, [])
    | 'n' :: cs => readWord .null ['u', 'l', 'l'] cs
    | 't' :: cs => readWord (.bool true) ['r', 'u', 'e'] cs
    | 'f' :: cs => readWord (.bool false) ['a', 'l', 's', 'e'] cs
    | '"' :: cs => let (s, rest) := readLiteral cs; (.string s, rest)
    | '[' :: cs =>
      match skipSpacing cs with
      | [] => (.array [] (some .ended), [])
      | ']' :: cs => (.array [] none, cs)
      | cs =>
        let (item, rest) := readValue fuel cs
        let (items, fault, rest) := readItems fuel rest
        (.array (item :: items) fault, rest)
    | '\x7b' :: cs =>
      match skipSpacing cs with
      | [] => (.object [] (some (.unclosed .ended)), [])
      | '\x7d' :: cs => (.object [] none, cs)
      | '"' :: cs =>
        let (field, rest) := readField fuel cs
        let (fields, fault, rest) := readFields fuel rest
        (.object (field :: fields) fault, rest)
      | _ :: _ => (.object [] (some (.unclosed .malformed)), [])
    | c :: cs =>
      if c = '-' ∨ (Digit.ofChar? c).isSome then
        match readNumeral (c :: cs) with
        | .ok (n, rest) => (.number n, rest)
        | .error g => (.gap g, [])
      else (.gap .malformed, [])

/-- Reads the items of an array after the first. -/
def readItems : (fuel : Nat) → List Char → List Value × Option Fault × List Char
  | 0, _ => ([], some .malformed, [])
  | fuel + 1, cs =>
    match skipSpacing cs with
    | [] => ([], some .ended, [])
    | ']' :: cs => ([], none, cs)
    | ',' :: cs =>
      let (item, rest) := readValue fuel cs
      let (items, fault, rest) := readItems fuel rest
      (item :: items, fault, rest)
    | _ :: _ => ([], some .malformed, [])

/-- Reads a field after the opening quote of its key. -/
def readField : (fuel : Nat) → List Char → (Literal × Value) × List Char
  | 0, _ => (({ pieces := [], defect := some .malformed }, .gap .absent), [])
  | fuel + 1, cs =>
    let (key, rest) := readLiteral cs
    match key.fault with
    | some _ => ((key, .gap .absent), [])
    | none =>
      match readColon rest with
      | .ok cs => let (v, rest) := readValue fuel cs; ((key, v), rest)
      | .error g => ((key, .gap g), [])

/-- Reads the fields of an object after the first. -/
def readFields : (fuel : Nat) → List Char →
    List (Literal × Value) × Option ObjectFault × List Char
  | 0, _ => ([], some (.unclosed .malformed), [])
  | fuel + 1, cs =>
    match skipSpacing cs with
    | [] => ([], some (.unclosed .ended), [])
    | '\x7d' :: cs => ([], none, cs)
    | ',' :: cs =>
      match skipSpacing cs with
      | '"' :: cs =>
        let (field, rest) := readField fuel cs
        let (fields, fault, rest) := readFields fuel rest
        (field :: fields, fault, rest)
      | [] => ([], some .afterComma, [])
      | _ :: _ => ([], some (.unclosed .malformed), [])
    | _ :: _ => ([], some (.unclosed .malformed), [])

end

/-- Reads a text as a document. Each step of the recursion but one in three takes a character,
so three steps for each suffice. -/
def Document.read (text : String) : Document :=
  let cs := text.toList
  let (root, rest) := readValue (3 * cs.length + 3) cs
  { root, clean := (skipSpacing rest).isEmpty }

end PlatformAudit.Json
