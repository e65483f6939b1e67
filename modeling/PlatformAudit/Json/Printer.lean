import PlatformAudit.Json.Reader

/-!
# Writing a document

A value is written without any blanks. What cannot be read is written as far as
it was read.
-/

namespace PlatformAudit.Json

open Decimal

/-- The hexadecimal digit of a number below sixteen. -/
def hexChar (n : Nat) : Char :=
  if n < 10 then Char.ofNat (48 + n) else Char.ofNat (87 + n)

/-- A code unit as four hexadecimal digits. -/
def hexUnit (code : UInt16) : List Char :=
  let n := code.toNat
  [hexChar (n / 4096 % 16), hexChar (n / 256 % 16), hexChar (n / 16 % 16), hexChar (n % 16)]

/-- The letter after a backslash that stands for a character. -/
def shortLetter : Char → Char
  | '\x08' => 'b'
  | '\x0c' => 'f'
  | '\n' => 'n'
  | '\r' => 'r'
  | '\t' => 't'
  | c => c

/-- A piece of a string as it is written. -/
def Piece.render : Piece → List Char
  | .plain c => [c]
  | .short c => ['\\', shortLetter c]
  | .unit code => '\\' :: 'u' :: hexUnit code

/-- A string as it is written. -/
def Literal.render (s : Literal) : List Char :=
  '"' :: s.pieces.flatMap Piece.render ++ (if s.fault.isNone then ['"'] else [])

mutual

/-- A value as it is written. -/
def Value.render : Value → List Char
  | .null => ['n', 'u', 'l', 'l']
  | .bool true => ['t', 'r', 'u', 'e']
  | .bool false => ['f', 'a', 'l', 's', 'e']
  | .number n => n.text
  | .string s => s.render
  | .array items fault =>
    '[' :: renderItems items ++ (if fault.isNone then [']'] else [])
  | .object fields fault =>
    '\x7b' :: renderFields fields ++ (if fault.isNone then ['\x7d'] else [])
  | .gap _ => []

/-- The items of an array, with commas between them. -/
def renderItems : List Value → List Char
  | [] => []
  | [v] => v.render
  | v :: w :: vs => v.render ++ ',' :: renderItems (w :: vs)

/-- The fields of an object, with commas between them. -/
def renderFields : List (Literal × Value) → List Char
  | [] => []
  | [(key, v)] => key.render ++ ':' :: v.render
  | (key, v) :: f :: fs => key.render ++ ':' :: v.render ++ ',' :: renderFields (f :: fs)

end

/-- The text of a value. -/
def Value.toText (v : Value) : String :=
  String.ofList v.render

end PlatformAudit.Json
