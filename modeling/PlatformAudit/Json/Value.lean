import PlatformAudit.Json.Numeral

/-!
# Documents as far as they can be read

A document is checked for its form and for its content at the same time, and the
first problem in the order of the text is the one reported. To keep that order
and still separate the two concerns, a text is read into a tree **as far as it
can be read**: where the text goes wrong the tree has a gap or a fault, and the
content check, which walks the tree in the order of the text, meets the gap
exactly where a reader of the text would have stopped.

Three things are kept as they are written, because what they mean depends on who
asks. A number keeps its digits (a skipped number has no range), a string keeps
its escapes (a skipped string may hold half a surrogate pair, and a numeric key
may hold no escape at all), and an object keeps repeated keys in their order.
-/

namespace PlatformAudit.Json

/-- Why a text is not a document. -/
inductive Fault where
  /-- The text ends inside a value. -/
  | ended
  /-- The text has a character that cannot stand where it stands. -/
  | malformed
  deriving DecidableEq

/-- One element of a string as it is written. -/
inductive Piece where
  /-- A character that stands for itself. -/
  | plain (c : Char)
  /-- A backslash and a letter that stand for `c`. -/
  | short (c : Char)
  /-- A 16-bit code unit in hexadecimal. -/
  | unit (code : UInt16)
  deriving DecidableEq

/-- How a string goes wrong after its pieces. -/
inductive LiteralFault where
  /-- The text ends. -/
  | ended
  /-- The text ends inside an escape. -/
  | cutEscape
  /-- A character that cannot stand in a string, or an escape that means nothing. -/
  | malformed
  deriving DecidableEq

/-- Why a text with such a string is not a document. -/
def LiteralFault.fault : LiteralFault → Fault
  | .ended | .cutEscape => .ended
  | .malformed => .malformed

/-- A string as it is written; `defect` tells how it goes wrong after its pieces. -/
structure Literal where
  pieces : List Piece
  defect : Option LiteralFault := none
  deriving DecidableEq

/-- Why a text with this string is not a document, if the string goes wrong. -/
def Literal.fault (s : Literal) : Option Fault :=
  s.defect.map LiteralFault.fault

/-- What is found in place of a value that cannot be read. -/
inductive Gap where
  /-- The text ends where a value should begin. -/
  | absent
  /-- The text ends inside `null`, `true` or `false`. -/
  | cutWord
  /-- The text ends inside a number. -/
  | cutNumber
  /-- Something that begins no value, or goes on as none. -/
  | malformed
  deriving DecidableEq

/-- How an object goes wrong after its fields. -/
inductive ObjectFault where
  /-- Where a comma, a key or the closing brace should stand. -/
  | unclosed (f : Fault)
  /-- The text ends after a comma. -/
  | afterComma
  deriving DecidableEq

/-- Why a text with such an object is not a document. -/
def ObjectFault.fault : ObjectFault → Fault
  | .unclosed f => f
  | .afterComma => .ended

/-- A value as far as it can be read. -/
inductive Value where
  | null
  | bool (b : Bool)
  | number (n : Numeral)
  | string (s : Literal)
  /-- An array; `fault` tells how it goes wrong after its items. -/
  | array (items : List Value) (fault : Option Fault)
  /-- An object; `fault` tells how it goes wrong after its fields. -/
  | object (fields : List (Literal × Value)) (fault : Option ObjectFault)
  | gap (g : Gap)

/-- A text read as a document: its value, and whether nothing but blanks follows. -/
structure Document where
  root : Value
  clean : Bool

/-! ### Values to be written -/

namespace Literal

/-- How a character is written inside a string. -/
def pieceOf (c : Char) : Piece :=
  if c = '"' ∨ c = '\\' ∨ c = '\n' ∨ c = '\r' ∨ c = '\t' ∨ c = '\x08' ∨ c = '\x0c' then .short c
  else if c.toNat < 0x20 then .unit c.toNat.toUInt16
  else .plain c

/-- A string to be written. -/
def ofString (s : String) : Literal :=
  { pieces := s.toList.map pieceOf }

end Literal

namespace Value

/-- A string. -/
def text (s : String) : Value :=
  .string (Literal.ofString s)

/-- A natural number. -/
def nat (n : Nat) : Value :=
  .number (Numeral.ofNat n)

/-- A double; one that is not finite has no numeral and is written as `null`. -/
def real (x : Float) : Value :=
  if x.isFinite then .number (Numeral.ofFloat x) else .null

/-- An array. -/
def list (items : List Value) : Value :=
  .array items none

/-- An object. -/
def record (fields : List (String × Value)) : Value :=
  .object (fields.map fun (key, v) => (Literal.ofString key, v)) none

/-- The field of a value that may be missing; a missing one has no field. -/
def fieldIf (name : String) (f : α → Value) : Option α → List (String × Value)
  | none => []
  | some a => [(name, f a)]

/-- A value that may be missing, written as `null` when it is. -/
def optional (f : α → Value) : Option α → Value
  | none => .null
  | some a => f a

end Value

end PlatformAudit.Json
