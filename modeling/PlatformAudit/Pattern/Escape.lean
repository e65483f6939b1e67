import PlatformAudit.Pattern.Cursor
import PlatformAudit.Text.Hexadecimal
import PlatformAudit.Text.Property

/-!
# Escapes

A backslash gives a letter a meaning, and takes it from punctuation. An escape
stands for a character, for a class of characters or for a condition on a position.
Where only the Latin alphabet is known, a class that would hold anything beyond it
is refused.
-/

namespace PlatformAudit.Pattern

open Text

/-- What an escape stands for. -/
inductive Escape where
  /-- A character; `byte` tells whether it was written as the value of one byte. -/
  | char (c : Char) (byte : Bool)
  | set (s : CharSet)
  | boundary (b : Boundary)

/-! ### Characters by their code -/

/-- The character with a code given in hexadecimal, if there is one. -/
def charOfHex (digits : List Char) : Option Char := do
  let code ← ofHexDigits? digits
  if code < 0xD800 ∨ (0xDFFF < code ∧ code ≤ maxCodePoint) then some (Char.ofNat code) else none

/-- Takes this many characters, and the space after each of them. -/
def takeWidth : (width : Nat) → Parse (List Char)
  | 0 => return []
  | width + 1 => do
    let c ← next
    skipSpace
    return c :: (← takeWidth width)

/-- Reads a code in hexadecimal: in braces, or of fixed width. -/
def hexEscape (width : Nat) (byte : Bool) : Parse Escape := do
  skipSpace
  if ← nextIs '\x7b' then
    return .char (← (charOfHex (← braced) : Option Char)) false
  else
    return .char (← (charOfHex (← takeWidth width) : Option Char)) byte

/-! ### Classes -/

/-- The classes with a name between colons. -/
def asciiClass? : String → Option CharSet
  | "alnum" => some (.union (.range '0' '9') (.union (.range 'A' 'Z') (.range 'a' 'z')))
  | "alpha" => some (.union (.range 'A' 'Z') (.range 'a' 'z'))
  | "ascii" => some (.range '\x00' '\x7f')
  | "blank" => some (.union (.single '\t') (.single ' '))
  | "cntrl" => some (.union (.range '\x00' '\x1f') (.single '\x7f'))
  | "digit" => some (.range '0' '9')
  | "graph" => some (.range '!' '~')
  | "lower" => some (.range 'a' 'z')
  | "print" => some (.range ' ' '~')
  | "punct" =>
    some (.union (.range '!' '/') (.union (.range ':' '@')
      (.union (.range '[' '\x60') (.range '\x7b' '~'))))
  | "space" => some (.union (.range '\t' '\r') (.single ' '))
  | "upper" => some (.range 'A' 'Z')
  | "word" =>
    some (.union (.range '0' '9') (.union (.range 'A' 'Z') (.union (.single '_') (.range 'a' 'z'))))
  | "xdigit" => some (.union (.range '0' '9') (.union (.range 'A' 'F') (.range 'a' 'f')))
  | _ => none

/-- The negation of a class; where only the Latin alphabet is known there is none. -/
def negation (flags : Flags) (s : CharSet) : Option CharSet :=
  if flags.latin then none else some (.complement s)

/-- One of the three classes with a letter, given what it is for all scripts and the name of what
it is for the Latin alphabet. -/
def letterClass (s : CharSet) (latin : String) (negated : Bool) : Parse Escape := do
  let flags := (← get).flags
  let s ← (if flags.latin then asciiClass? latin else some s : Option CharSet)
  if negated then return .set (← (negation flags s : Option CharSet)) else return .set s

/-- What stands before the first occurrence of a separator and what follows it. -/
def splitAtFirst? (sep : List Char) : List Char → Option (List Char × List Char)
  | [] => none
  | c :: cs =>
    match dropStart? sep (c :: cs) with
    | some rest => some ([], rest)
    | none => (splitAtFirst? sep cs).map fun (before, after) => (c :: before, after)

/-- The characters of a property written in braces, and whether they are those that have another
value than the one named. -/
def propertySet? (text : List Char) : Option (CharSet × Bool) :=
  match splitAtFirst? ['!', '='] text with
  | some (name, value) => (Property.valueRanges? name value).map fun rs => (.table rs, true)
  | none =>
    match splitAtFirst? [':'] text <|> splitAtFirst? ['='] text with
    | some (name, value) => (Property.valueRanges? name value).map fun rs => (.table rs, false)
    | none => (Property.ranges? text).map fun rs => (.table rs, false)

/-- Reads the name of a property: in braces, or of one letter. -/
def propertyEscape (negated : Bool) : Parse Escape := do
  skipSpace
  let c ← next
  if c = '\\' then failure
  let name ← if c = '\x7b' then braced else skipSpace *> pure [c]
  let flags := (← get).flags
  let (s, different) ← (propertySet? name : Option (CharSet × Bool))
  if flags.latin then failure
  let s := flags.closed s
  return .set (if negated != different then .complement s else s)

/-! ### Conditions -/

/-- The condition on words with a name. -/
def wordEdge? : String → Option WordEdge
  | "start" => some .start
  | "end" => some .stop
  | "start-half" => some .startHalf
  | "end-half" => some .stopHalf
  | _ => none

/-- A condition on words. -/
def wordBoundary (e : WordEdge) : Parse Escape := do
  return .boundary (if (← get).flags.latin then .latinWord e else .word e)

/-- Reads the name in braces that may follow an edge of a word. Braces that begin neither with a
letter nor with a hyphen are a counted repetition and are left alone. -/
def edgeName : Parse WordEdge := do
  let before ← get
  if ← nextIs '\x7b' then
    skipSpace
    match (← get).rest with
    | [] => failure
    | c :: _ =>
      if c.isAlpha || c = '-' then do
        let name ← takeAllSpaced fun c => c.isAlpha || c = '-'
        expect '\x7d'
        (wordEdge? (String.ofList name) : Option WordEdge)
      else do
        set before
        return .edge
  else return .edge

/-! ### All escapes -/

/-- A punctuation character that may be escaped to stand for itself. -/
def isPunctuation (c : Char) : Bool :=
  c.toNat < 128 && !c.isAlphanum && c ≠ '<' && c ≠ '>'

/-- Reads an escape after its backslash. -/
def escape : Parse Escape := do
  match ← next with
  | 'x' => hexEscape 2 true
  | 'u' => hexEscape 4 false
  | 'U' => hexEscape 8 false
  | 'p' => propertyEscape false
  | 'P' => propertyEscape true
  | 'd' => letterClass .digit "digit" false
  | 'D' => letterClass .digit "digit" true
  | 's' => letterClass .blank "space" false
  | 'S' => letterClass .blank "space" true
  | 'w' => letterClass .word "word" false
  | 'W' => letterClass .word "word" true
  | 'a' => return .char '\x07' false
  | 'f' => return .char '\x0c' false
  | 't' => return .char '\t' false
  | 'n' => return .char '\n' false
  | 'r' => return .char '\r' false
  | 'v' => return .char '\x0b' false
  | 'A' => return .boundary .textStart
  | 'z' => return .boundary .textEnd
  | 'b' => do wordBoundary (← edgeName)
  | 'B' => wordBoundary .noEdge
  | '<' => wordBoundary .start
  | '>' => wordBoundary .stop
  | c => if isPunctuation c then return .char c false else failure

/-- A character that was read, unless it is a byte that is no character by itself. -/
def plainChar (c : Char) (byte : Bool) : Parse Char := do
  if byte && (← get).flags.latin && 128 ≤ c.toNat then failure
  return c

end PlatformAudit.Pattern
