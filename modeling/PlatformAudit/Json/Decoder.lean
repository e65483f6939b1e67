import PlatformAudit.Json.Value
import PlatformAudit.Text.Quoted

/-!
# Checking the content of a document

A decoder walks a value in the order of the text and either gives a value of the
domain or the first problem it meets: a fault of the text, or content of another
kind than expected. Only the arrays and objects that a decoder enters count
against the nesting limit; what it skips may be nested as deep as it likes, may
hold numbers of any size and halves of surrogate pairs.
-/

namespace PlatformAudit.Json

/-! ### Problems -/

/-- The kind of value that was found. -/
inductive Found where
  | null
  | bool (b : Bool)
  | natural (n : Nat)
  | negative (n : Nat)
  | real (x : Float)
  | string (s : String)
  | sequence
  | map

/-- Why well-formed content is refused. -/
inductive Mismatch where
  /-- A value of another type. -/
  | wrongType (found : Found) (expected : String)
  /-- A value of the right type outside its range. -/
  | wrongValue (found : Found) (expected : String)
  /-- An array that ends before a field that has no default. -/
  | wrongLength (length : Nat) (expected : String)
  | missingField (name : String)
  | duplicateField (name : String)
  /-- A name that is none of the known ones. -/
  | unknownVariant (name : String) (known : List String)
  /-- A text that the type refuses for a reason of its own. -/
  | invalid (reason : String)

/-- The first problem of a document. -/
inductive DecodeError where
  | fault (f : Fault)
  | content (m : Mismatch)

/-- A name between backquotes. -/
def named (name : String) : String :=
  "`" ++ name ++ "`"

/-- How a value is described. -/
def Found.describe : Found → String
  | .null => "null"
  | .bool true => "boolean `true`"
  | .bool false => "boolean `false`"
  | .natural n => "integer " ++ named (String.ofList (Decimal.text n))
  | .negative n => "integer " ++ named (String.ofList ('-' :: Decimal.text n))
  | .real x => "floating point " ++ named (String.ofList (Numeral.ofFloat x).text)
  | .string s => "string " ++ Text.quoted s
  | .sequence => "sequence"
  | .map => "map"

/-- The known names, as a message lists them. -/
def listVariants : List String → String
  | [] => "there are no variants"
  | [a] => "expected " ++ named a
  | [a, b] => "expected " ++ named a ++ " or " ++ named b
  | names => "expected one of " ++ String.intercalate ", " (names.map named)

/-- The message of a mismatch. -/
def Mismatch.message : Mismatch → String
  | .wrongType found expected => "invalid type: " ++ found.describe ++ ", expected " ++ expected
  | .wrongValue found expected => "invalid value: " ++ found.describe ++ ", expected " ++ expected
  | .wrongLength n expected =>
    "invalid length " ++ String.ofList (Decimal.text n) ++ ", expected " ++ expected
  | .missingField name => "missing field " ++ named name
  | .duplicateField name => "duplicate field " ++ named name
  | .unknownVariant name known => "unknown variant " ++ named name ++ ", " ++ listVariants known
  | .invalid reason => reason

/-- The outcome of a check. -/
abbrev Checked (α : Type) := Except DecodeError α

/-- A malformed text. -/
def malformed : Checked α :=
  .error (.fault .malformed)

/-- Refuses content. -/
def refuse (m : Mismatch) : Checked α :=
  .error (.content m)

/-- Refuses a value that goes wrong after the part that was read. -/
def noFault : Option Fault → Checked Unit
  | none => .ok ()
  | some f => .error (.fault f)

/-! ### Strings -/

/-- The first code unit of the leading half of a surrogate pair. -/
def isLeading (code : UInt16) : Bool :=
  0xD800 ≤ code && code ≤ 0xDBFF

/-- A code unit of the trailing half of a surrogate pair. -/
def isTrailing (code : UInt16) : Bool :=
  0xDC00 ≤ code && code ≤ 0xDFFF

/-- The character of a surrogate pair. -/
def joinSurrogates (lead trail : UInt16) : Char :=
  Char.ofNat (0x10000 + 1024 * (lead.toNat - 0xD800) + (trail.toNat - 0xDC00))

/-- The characters that the pieces of a string stand for. Half a surrogate pair is malformed
where it stands, even if the string goes wrong further on; a leading half at the end of what was
read is as wrong as what comes after it. -/
def piecesText (fault : Option Fault) : List Piece → Checked (List Char)
  | [] => do noFault fault; return []
  | .plain c :: ps => return c :: (← piecesText fault ps)
  | .short c :: ps => return c :: (← piecesText fault ps)
  | [.unit code] =>
    if isTrailing code then malformed
    else if isLeading code then do noFault fault; malformed
    else do noFault fault; return [Char.ofNat code.toNat]
  | .unit code :: .unit next :: ps =>
    if isTrailing code then malformed
    else if isLeading code then
      if isTrailing next then return joinSurrogates code next :: (← piecesText fault ps)
      else malformed
    else return Char.ofNat code.toNat :: (← piecesText fault (.unit next :: ps))
  | .unit code :: p :: ps =>
    if isTrailing code || isLeading code then malformed
    else return Char.ofNat code.toNat :: (← piecesText fault (p :: ps))

/-- The text that a string stands for. -/
def Literal.text (s : Literal) : Checked String :=
  String.ofList <$> piecesText s.fault s.pieces

/-! ### Skipping -/

/-- The fault of a gap where a value of some type was expected. -/
def Gap.fault : Gap → Fault
  | .absent | .cutWord | .cutNumber => .ended
  | .malformed => .malformed

/-- The fault of a gap in a value that is skipped: a number that is cut off is malformed. -/
def Gap.skipFault : Gap → Fault
  | .absent | .cutWord => .ended
  | .cutNumber | .malformed => .malformed

mutual

/-- Passes over a value, checking nothing but its form. -/
def Value.skip : Value → Checked Unit
  | .null | .bool _ | .number _ => .ok ()
  | .string s => noFault s.fault
  | .array items fault => do skipItems items; noFault fault
  | .object fields fault => do skipFields fields; noFault (fault.map ObjectFault.fault)
  | .gap g => .error (.fault g.skipFault)

/-- Passes over the items of an array. -/
def skipItems : List Value → Checked Unit
  | [] => .ok ()
  | v :: vs => do v.skip; skipItems vs

/-- Passes over the fields of an object. -/
def skipFields : List (Literal × Value) → Checked Unit
  | [] => .ok ()
  | (key, v) :: fs => do noFault key.fault; v.skip; skipFields fs

end

/-! ### Decoders -/

/-- Reads a value when `room` more levels of nesting may be entered. -/
abbrev Decoder (α : Type) := (room : Nat) → Value → Checked α

/-- How many levels of arrays and objects a decoder may enter. -/
def nestingLimit : Nat := 127

/-- Reads a document: its content, and then that nothing follows. -/
def Document.decode (d : Document) (decoder : Decoder α) : Checked α := do
  let a ← decoder nestingLimit d.root
  if d.clean then return a else malformed

/-- What a numeral stands for; one that is out of range is malformed. -/
def readNumber (n : Numeral) : Checked Number :=
  match n.value? with
  | some x => .ok x
  | none => malformed

/-- The kind of number that was found. -/
def Number.found : Number → Found
  | .natural n => .natural n
  | .negative n => .negative n
  | .real x => .real x

/-- Refuses a value because another type was expected. A string or a number is read to its end
first, an array or object is not entered. -/
def mismatch (v : Value) (expected : String) : Checked α :=
  match v with
  | .null => refuse (.wrongType .null expected)
  | .bool b => refuse (.wrongType (.bool b) expected)
  | .number n => do refuse (.wrongType (← readNumber n).found expected)
  | .string s => do refuse (.wrongType (.string (← s.text)) expected)
  | .array _ _ => refuse (.wrongType .sequence expected)
  | .object _ _ => refuse (.wrongType .map expected)
  | .gap g => .error (.fault g.fault)

namespace Decoder

/-- A string. -/
def text : Decoder String
  | _, .string s => s.text
  | _, v => mismatch v "a string"

/-- A truth value. -/
def bool : Decoder Bool
  | _, .bool b => .ok b
  | _, v => mismatch v "a boolean"

/-- An integer from zero up to a bound. -/
def naturalUpTo (bound : Nat) (expected : String) : Decoder Nat
  | _, .number n => do
    match ← readNumber n with
    | .natural n => if n ≤ bound then return n else refuse (.wrongValue (.natural n) expected)
    | .negative n => refuse (.wrongValue (.negative n) expected)
    | .real x => refuse (.wrongType (.real x) expected)
  | _, v => mismatch v expected

/-- An integer of 32 bits. -/
def word32 : Decoder UInt32 := fun room v =>
  Nat.toUInt32 <$> naturalUpTo (UInt32.size - 1) "u32" room v

/-- An integer of 64 bits. -/
def natural64 : Decoder Nat :=
  naturalUpTo (UInt64.size - 1) "u64"

/-- A count. -/
def count : Decoder Nat :=
  naturalUpTo (UInt64.size - 1) "usize"

/-- A double; an integer is one too. -/
def real : Decoder Float
  | _, .number n => do
    match ← readNumber n with
    | .natural n => return n.toUInt64.toFloat
    | .negative n => return -n.toUInt64.toFloat
    | .real x => return x
  | _, v => mismatch v "f64"

/-- Nothing. -/
def unit : Decoder Unit
  | _, .null => .ok ()
  | _, v => mismatch v "unit"

/-- A value that may be missing; `null` is the missing one. -/
def optional (d : Decoder α) : Decoder (Option α)
  | _, .null => .ok none
  | room, v => some <$> d room v

/-- The items of an array, each read by `d`. -/
def items (d : Decoder α) (room : Nat) : List Value → Checked (List α)
  | [] => .ok []
  | v :: vs => do
    let a ← d room v
    return a :: (← items d room vs)

/-- An array. -/
def list (d : Decoder α) : Decoder (List α)
  | 0, .array _ _ => malformed
  | room + 1, .array vs fault => do
    let as ← items d room vs
    noFault fault
    return as
  | _, v => mismatch v "a sequence"

/-- The entries of an object. -/
def entries (readKey : Literal → Checked κ) (d : Decoder α) (room : Nat) :
    List (Literal × Value) → Checked (List (κ × α))
  | [] => .ok []
  | (key, v) :: fs => do
    let k ← readKey key
    let a ← d room v
    return (k, a) :: (← entries readKey d room fs)

/-- An object as the list of its entries, in the order of the text. -/
def map (readKey : Literal → Checked κ) (d : Decoder α) : Decoder (List (κ × α))
  | 0, .object _ _ => malformed
  | room + 1, .object fs fault => do
    let es ← entries readKey d room fs
    noFault (fault.map ObjectFault.fault)
    return es
  | _, v => mismatch v "a map"

/-! ### Names -/

/-- The value that a name stands for. -/
def named? (known : List (String × α)) (name : String) : Option α :=
  (known.find? (·.1 = name)).map (·.2)

/-- The value that a name stands for; a name that is not known stands for `other`, if there is
such a value. -/
def lookupVariant (known : List (String × α)) (other : Option α) (name : String) : Checked α :=
  match named? known name with
  | some a => .ok a
  | none =>
    match other with
    | some a => .ok a
    | none => refuse (.unknownVariant name (known.map (·.1)))

/-- One of the known names, as a string or as an object with the name as its one key and nothing
as its value. No other type is even looked at, and after the value only the closing brace may
stand. -/
def variant (known : List (String × α)) (other : Option α) : Decoder α
  | _, .string s => do lookupVariant known other (← s.text)
  | 0, .object _ _ => malformed
  | _ + 1, .object [] none => malformed
  | _ + 1, .object [] (some f) => .error (.fault f.fault)
  | room + 1, .object ((key, v) :: fs) fault => do
    let a ← lookupVariant known other (← key.text)
    unit room v
    match fs, fault with
    | [], none => return a
    | [], some (.unclosed f) => .error (.fault f)
    | _, _ => malformed
  | _, .gap .absent => .error (.fault .ended)
  | _, _ => malformed

end Decoder

end PlatformAudit.Json
