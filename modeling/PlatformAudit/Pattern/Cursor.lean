import PlatformAudit.Pattern.CharSet

/-!
# Reading a pattern character by character

A step of the reader takes characters from the text, or fails. Why a text is no
pattern is never reported, so the reader is partial in the plainest sense: it gives
a result or nothing. Beside the text it keeps the flags in force and the names of
groups that were used.

In the **verbose** notation blanks and comments may stand between almost any two
characters. The steps skip them with `skipSpace`, which does nothing in the plain
notation.
-/

namespace PlatformAudit.Pattern

open Text

/-- The flags in force at a point of a pattern. -/
structure Flags where
  /-- Case does not count. -/
  ignoreCase : Bool := false
  /-- The anchors of the text are anchors of its lines. -/
  multiLine : Bool := false
  /-- The dot is any character, also one that ends a line. -/
  dotAll : Bool := false
  /-- A repetition is lazy unless it is marked. -/
  swapGreed : Bool := false
  /-- A carriage return ends a line too. -/
  returns : Bool := false
  /-- Blanks and comments are skipped. -/
  verbose : Bool := false
  /-- Named classes, conditions on words and case know the Latin alphabet only. -/
  latin : Bool := false

/-- A class, without regard to case if the flag is set. -/
def Flags.closed (flags : Flags) (s : CharSet) : CharSet :=
  if flags.ignoreCase then if flags.latin then .anyLatinCase s else .anyCase s else s

/-- What remains to be read, the flags in force and the group names in use. -/
structure Input where
  rest : List Char
  flags : Flags := {}
  names : List (List Char) := []

/-- A step of the reader. -/
abbrev Parse := StateT Input Option

/-- Replaces what remains to be read. -/
def continueAt (rest : List Char) : Parse Unit :=
  modify fun input => { input with rest }

/-- Drops blanks and comments; a comment goes from a number sign to the end of its line. -/
def dropSpace : (inComment : Bool) → List Char → List Char
  | _, [] => []
  | true, c :: cs => dropSpace (c ≠ '\n') cs
  | false, c :: cs =>
    if isBlank c then dropSpace false cs
    else if c = '#' then dropSpace true cs
    else c :: cs

/-- Skips blanks and comments in the verbose notation. -/
def skipSpace : Parse Unit :=
  modify fun input =>
    if input.flags.verbose then { input with rest := dropSpace false input.rest } else input

/-- Takes the next character. -/
def next : Parse Char := do
  match (← get).rest with
  | c :: cs => do continueAt cs; return c
  | [] => failure

/-- Takes the next character if it is this one, and tells whether it was. -/
def nextIs (c : Char) : Parse Bool := do
  match (← get).rest with
  | d :: ds => if c = d then do continueAt ds; return true else return false
  | [] => return false

/-- Takes this character. -/
def expect (c : Char) : Parse Unit := do
  if ← nextIs c then return () else failure

/-- Takes the characters that satisfy `p`, and the space after each of them. -/
def takeSpaced (p : Char → Bool) : (fuel : Nat) → Parse (List Char)
  | 0 => return []
  | fuel + 1 => do
    match (← get).rest with
    | c :: cs =>
      if p c then do
        continueAt cs
        skipSpace
        return c :: (← takeSpaced p fuel)
      else return []
    | [] => return []

/-- Takes all characters that satisfy `p`, and the space after each of them. -/
def takeAllSpaced (p : Char → Bool) : Parse (List Char) := do
  takeSpaced p (← get).rest.length

/-- Takes what stands between braces, after the opening one, without its space. -/
def braced : Parse (List Char) := do
  skipSpace
  let content ← takeAllSpaced (· ≠ '\x7d')
  expect '\x7d'
  return content

end PlatformAudit.Pattern
