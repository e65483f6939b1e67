import PlatformAudit.Text.CodeRange
import PlatformAudit.Text.Hexadecimal
import PlatformAudit.Text.Segment

/-!
# Rows of property tables

A table of properties is a list of rows, one for each value. A row has the names of
the value and says which characters have it: those of other rows, without those of
some further rows and without some holes, and a number of its own. Characters are
listed as words divided by blanks, in hexadecimal: `41` is one code point, `41-5A` is a
range, and `100-12E/2` is every second code point of a range.
-/

namespace PlatformAudit.Text.Property

/-- A value of a property. -/
structure Row where
  /-- The names of the value. -/
  names : List String
  /-- The names of rows whose characters have the value. -/
  parts : List String := []
  /-- The names of rows whose characters are taken out again. -/
  lacking : List String := []
  /-- Single characters and ranges that are taken out again. -/
  holes : List String := []
  /-- Single characters and ranges that have the value in any case. -/
  own : List String := []

/-- The number that hexadecimal digits stand for; zero if they stand for none. -/
def numberOf (cs : List Char) : Nat :=
  (ofHexDigits? cs).getD 0

/-- The ranges that a word of a table stands for. -/
def rangesOfWord (word : List Char) : List (Nat × Nat) :=
  match segmentsBy (fun c => c = '-' || c = '/') word with
  | [lo, hi] => [(numberOf lo, numberOf hi)]
  | [lo, hi, stride] =>
    let first := numberOf lo
    let stride := numberOf stride
    (List.range ((numberOf hi - first) / stride + 1)).map fun k =>
      (first + stride * k, first + stride * k)
  | _ => [(numberOf word, numberOf word)]

/-- The ranges that some lines of a table stand for. -/
def rangesOfLines (lines : List String) : List (Nat × Nat) :=
  lines.flatMap fun line => (runsOf (· ≠ ' ') line.toList).flatMap rangesOfWord

/-- The row with a name. -/
def find? (rows : List Row) (name : String) : Option Row :=
  rows.find? fun row => row.names.contains name

end PlatformAudit.Text.Property
