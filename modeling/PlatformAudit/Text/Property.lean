import PlatformAudit.Text.Property.Ages
import PlatformAudit.Text.Property.Binary
import PlatformAudit.Text.Property.Breaks
import PlatformAudit.Text.Property.Categories
import PlatformAudit.Text.Property.ScriptExtensions
import PlatformAudit.Text.Property.Scripts

/-!
# Properties of characters by name

A property is looked up by a name alone (`Greek`, `Lu`, `Alphabetic`) or by the name of
a property and of one of its values (`Script=Greek`). In names the case of letters,
blanks, hyphens and low lines do not count, nor does `is` at the start.
-/

namespace PlatformAudit.Text.Property

/-- The form of a name in the tables. After a leading `is` that is dropped, a single `c` would
be the short name of a group of categories; `isc` is the short name of a property that no table
has, and is kept. -/
def tableName (name : List Char) : String :=
  let plain (cs : List Char) : List Char :=
    (cs.filter fun c => c.toNat < 128 && c ≠ ' ' && c ≠ '_' && c ≠ '-').map Char.toLower
  match name with
  | i :: s :: rest =>
    if i.toLower = 'i' && s.toLower = 's' then
      if plain rest = ['c'] then "isc" else String.ofList (plain rest)
    else String.ofList (plain name)
  | _ => String.ofList (plain name)

/-- The row that a name alone stands for: a property, a general category or a script. -/
def named? (name : String) : Option Row :=
  find? binaryProperties name <|> find? categories name <|> find? scripts name

/-- The characters of a row; `fuel` bounds how often a row may refer to other rows. -/
def Row.ranges : (fuel : Nat) → Row → CodeRanges
  | 0, row => CodeRanges.ofPairs (rangesOfLines row.own)
  | fuel + 1, row =>
    let all (names : List String) : List (Nat × Nat) :=
      names.flatMap fun name => ((named? name).map (Row.ranges fuel)).getD []
    let taken := CodeRanges.ofPairs (all row.lacking ++ rangesOfLines row.holes)
    let left := CodeRanges.inter maxCodePoint (CodeRanges.ofPairs (all row.parts))
      (CodeRanges.complement maxCodePoint taken)
    CodeRanges.ofPairs (left ++ rangesOfLines row.own)

/-- How many references lead from one row to the last at most. -/
def referenceDepth : Nat := 8

/-- The characters of a version and of all earlier ones. -/
def ageRanges? (name : String) : Option CodeRanges :=
  if (find? ages name).isSome then
    let older := ages.takeWhile fun row => !row.names.contains name
    let last := (find? ages name).toList
    some (CodeRanges.ofPairs ((older ++ last).flatMap fun row => rangesOfLines row.own))
  else none

/-- The characters with the property that a name alone stands for. -/
def ranges? (name : List Char) : Option CodeRanges :=
  (named? (tableName name)).map (Row.ranges referenceDepth)

/-- The characters for which a property has a value. -/
def valueRanges? (property value : List Char) : Option CodeRanges :=
  let value := tableName value
  let among (rows : List Row) : Option CodeRanges :=
    (find? rows value).map (Row.ranges referenceDepth)
  match tableName property with
  | "generalcategory" | "gc" => among categories
  | "script" | "sc" => among scripts
  | "scriptextensions" | "scx" => among scriptExtensions <|> among scripts
  | "age" => ageRanges? value
  | "graphemeclusterbreak" | "gcb" => among graphemeBreaks
  | "wordbreak" | "wb" => among wordBreaks
  | "sentencebreak" | "sb" => among sentenceBreaks
  | _ => none

end PlatformAudit.Text.Property
