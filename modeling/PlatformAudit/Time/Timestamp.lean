import PlatformAudit.Decimal.Digits
import PlatformAudit.Text.Blank
import PlatformAudit.Text.Ascii
import PlatformAudit.Text.Segment
import PlatformAudit.Time.Calendar

/-!
# Instants and their notation

An instant is a number of seconds since the beginning of 1970 in universal time,
and nanoseconds. A leap second is a second of more than a thousand million
nanoseconds. An instant is written as a date, the letter T and a time of day, with
as many decimals as it needs in groups of three, and the letter Z. It is read
more liberally: with any offset, with blanks between its parts, and with numbers
of fewer digits.
-/

namespace PlatformAudit.Time

open Decimal Text

/-- An instant. -/
structure Timestamp where
  seconds : Int
  nanos : Nat
  deriving DecidableEq

/-- Why a text is no instant. -/
inductive ParseError where
  | outOfRange
  | impossible
  | invalid
  | tooShort
  | tooLong
  deriving DecidableEq

/-- The message of an error. -/
def ParseError.message : ParseError → String
  | .outOfRange => "input is out of range"
  | .impossible => "no possible date and time matching input"
  | .invalid => "input contains invalid characters"
  | .tooShort => "premature end of input"
  | .tooLong => "trailing input"

namespace Timestamp

/-- The instant this number of milliseconds after the beginning of 1970. -/
def ofMillis (ms : Int) : Timestamp :=
  { seconds := ms / 1000, nanos := (ms % 1000).toNat * 1000000 }

/-- The whole milliseconds since the beginning of 1970. -/
def toMillis (t : Timestamp) : Int :=
  t.seconds * 1000 + t.nanos / 1000000

/-! ### Writing -/

/-- A year: four digits if it has no more, otherwise with a sign. -/
def yearText (year : Int) : List Char :=
  if 0 ≤ year ∧ year ≤ 9999 then padded 4 year.toNat
  else
    let ds := text year.natAbs
    (if year < 0 then '-' else '+') :: List.replicate (4 - ds.length) '0' ++ ds

/-- The decimals of a second: as few groups of three as are exact. -/
def fractionText (nanos : Nat) : List Char :=
  if nanos = 0 then []
  else if nanos % 1000000 = 0 then '.' :: padded 3 (nanos / 1000000)
  else if nanos % 1000 = 0 then '.' :: padded 6 (nanos / 1000)
  else '.' :: padded 9 nanos

/-- An instant in universal time. -/
def toText (t : Timestamp) : String :=
  let date := Date.ofDays (t.seconds / 86400)
  let secondOfDay := (t.seconds % 86400).toNat
  let second := secondOfDay % 60 + t.nanos / 1000000000
  String.ofList <|
    yearText date.year ++ '-' :: padded 2 date.month ++ '-' :: padded 2 date.day ++ 'T' ::
      padded 2 (secondOfDay / 3600) ++ ':' :: padded 2 (secondOfDay / 60 % 60) ++ ':' ::
      padded 2 second ++ fractionText (t.nanos % 1000000000) ++ ['Z']

/-! ### Reading -/

/-- A step of the reader; its state is what remains of the text. -/
abbrev Parse := StateT (List Char) (Except ParseError)

/-- Drops blanks. -/
def blanks : Parse Unit :=
  modify trimStart

/-- The greatest number that is read. -/
def maxNumber : Nat := Nat.pow 2 63 - 1

/-- Reads a number of at least one digit, and of at most `width`. -/
def number (width : Option Nat) : Parse Nat := do
  let cs ← get
  let (ds, _) := takeDigits (width.elim cs cs.take)
  if cs.isEmpty then throw .tooShort
  if ds.isEmpty then throw .invalid
  if maxNumber < ofDigits ds then throw .outOfRange
  set (cs.drop ds.length)
  return ofDigits ds

/-- Reads a number of at most two digits between two bounds, after blanks. -/
def bounded (lo hi : Nat) : Parse Nat := do
  blanks
  let n ← number (some 2)
  if lo ≤ n ∧ n ≤ hi then return n else throw .outOfRange

/-- Reads a character after blanks. -/
def mark (c : Char) : Parse Unit := do
  blanks
  match ← get with
  | [] => throw .tooShort
  | d :: ds => if c = d then set ds else throw .invalid

/-- Reads a year: at most four digits, or a sign and any number of digits. -/
def year : Parse Int := do
  blanks
  match ← get with
  | '-' :: cs => do
    set cs
    let n ← number none
    if n ≤ Nat.pow 2 31 then return -n else throw .outOfRange
  | '+' :: cs => do
    set cs
    let n ← number none
    if n < Nat.pow 2 31 then return n else throw .outOfRange
  | _ => return (← number (some 4))

/-- Reads the decimals of a second as nanoseconds; those after the ninth are dropped. -/
def decimals : Parse Nat := do
  match ← get with
  | '.' :: cs => do
    set cs
    let n ← number (some 9)
    let count := cs.length - (← get).length
    modify fun cs => (takeDigits cs).2
    return n * Nat.pow 10 (9 - count)
  | _ => return 0

/-- Reads exactly two digits. -/
def twoDigits : Parse Nat := do
  let cs ← get
  if byteLength cs < 2 then throw .tooShort
  match (cs.take 2).map Digit.ofChar? with
  | [some a, some b] => do
    set (cs.drop 2)
    return 10 * a.val + b.val
  | _ => throw .invalid

/-- Reads the sign of an offset, and tells whether it is a minus sign. -/
def sign : Parse Bool := do
  match ← get with
  | [] => throw .tooShort
  | c :: cs => do
    set cs
    if c = '+' then return false
    if c = '-' ∨ c = '\u2212' then return true
    throw .invalid

/-- Reads an offset from universal time, in seconds. -/
def offset : Parse Int := do
  let negative ← sign
  let hours ← twoDigits
  modify fun cs => cs.dropWhile fun c => c = ':' || isBlank c
  let minutes ← twoDigits
  if 60 ≤ minutes then throw .outOfRange
  let size : Int := hours * 3600 + minutes * 60
  return if negative then -size else size

/-- Reads the zone of a time: a letter Z, the letters UTC, or an offset. -/
def zone : Parse Int := do
  let cs ← get
  match dropStartIgnoringCase ['U', 'T', 'C'] cs <|> dropStartIgnoringCase ['Z'] cs with
  | some rest => do
    set rest
    return 0
  | none => offset

/-- Reads the letter between date and time. -/
def divider : Parse Unit := do
  match ← get with
  | [] => throw .tooShort
  | c :: cs => if c = 't' ∨ c = 'T' ∨ c = ' ' then set cs else throw .invalid

/-- The last year that a date can have. -/
def maxYear : Int := 262142

/-- The first year that a date can have. -/
def minYear : Int := -262143

/-- Reads an instant. The date must be one as it is written and as it is in universal time. -/
def instant : Parse Timestamp := do
  let year ← year
  mark '-'
  let month ← bounded 1 12
  mark '-'
  let day ← bounded 1 31
  divider
  let hour ← bounded 0 23
  mark ':'
  let minute ← bounded 0 59
  mark ':'
  let second ← bounded 0 60
  let nanos ← decimals
  blanks
  let offset ← zone
  blanks
  if !(← get).isEmpty then throw .tooLong
  let date : Date := { year, month, day }
  if !date.isValid ∨ year < minYear ∨ maxYear < year ∨ 86400 ≤ offset.natAbs then
    throw .outOfRange
  let leap := second = 60
  let secondOfDay := hour * 3600 + minute * 60 + (if leap then 59 else second)
  let seconds := date.toDays * 86400 + secondOfDay - offset
  let first : Date := { year := minYear, month := 1, day := 1 }
  let last : Date := { year := maxYear, month := 12, day := 31 }
  if seconds / 86400 < first.toDays ∨ last.toDays < seconds / 86400 then throw .impossible
  return { seconds, nanos := if leap then nanos + 1000000000 else nanos }

/-- Reads a text as an instant. -/
def parse (s : String) : Except ParseError Timestamp :=
  (·.1) <$> instant s.toList

end Timestamp

end PlatformAudit.Time
