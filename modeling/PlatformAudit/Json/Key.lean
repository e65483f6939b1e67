import PlatformAudit.Json.Decoder
import PlatformAudit.Json.Reader
import PlatformAudit.Table

/-!
# Keys of tables

The key of a table is written as a string, whatever its type. A text is its own
key. A name has to be one of the known ones. A number has to stand between the
quotes exactly as it would stand outside of them, without any escape.
-/

namespace PlatformAudit.Json

/-- What a reader of numbers sees of a piece of a string. -/
def Piece.sign : Piece → Char
  | .plain c => c
  | _ => '\\'

/-- What a reader of numbers sees of a string after its opening quote: the pieces, and then the
closing quote or a character that cannot stand there, unless the text ends. -/
def Literal.signs (s : Literal) : List Char :=
  s.pieces.map Piece.sign ++
    match s.defect with
    | none => ['"']
    | some .malformed | some .cutEscape => ['\\']
    | some .ended => []

namespace Key

/-- One of the known names. -/
def named (known : List (String × α)) (key : Literal) : Checked α := do
  Decoder.lookupVariant known none (← key.text)

/-- Whether a number may begin with a character. -/
def beginsNumber (c : Char) : Bool :=
  c = '-' || (Decimal.Digit.ofChar? c).isSome

/-- An integer of 32 bits. -/
def word32 (key : Literal) : Checked UInt32 :=
  if key.signs.head?.any beginsNumber then
    match readNumeral key.signs with
    | .error g => .error (.fault g.fault)
    | .ok (n, rest) => do
      let w ← Decoder.word32 0 (.number n)
      if rest = ['"'] then return w else malformed
  else malformed

end Key

/-- A table with keys of some type. -/
def Decoder.table [Ord κ] [Std.TransOrd κ] [Std.LawfulEqOrd κ]
    (readKey : Literal → Checked κ) (d : Decoder α) : Decoder (Table κ α) :=
  fun room v => Table.ofList <$> Decoder.map readKey d room v

/-- A table to be written. -/
def Value.table [Ord κ] (key : κ → String) (f : α → Value) (t : Table κ α) : Value :=
  .record (t.entries.map fun (k, a) => (key k, f a))

end PlatformAudit.Json
