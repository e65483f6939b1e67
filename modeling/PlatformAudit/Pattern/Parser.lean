import PlatformAudit.Decimal.Digits
import PlatformAudit.Pattern.Bracket
import PlatformAudit.Pattern.Tree
import PlatformAudit.Text.Alphanumeric

/-!
# The notation of patterns

A pattern is written in the usual notation of regular expressions: literals and
escapes, classes in brackets, groups, choices, counted and uncounted repetitions,
flags and boundaries. There are no back-references and no look-around, and a text
that uses them, or is otherwise not well formed, is no pattern.

The fuel of the recursive functions bounds the depth of their recursion, which is at
most three for each character of the text.
-/

namespace PlatformAudit.Pattern

open Decimal Text

/-! ### Repetitions -/

/-- Reads a number in a counted repetition, with blanks around it. -/
def repetitionCount : Parse (Option Nat) := do
  modify fun input => { input with rest := trimStart input.rest }
  let digits ← takeAllSpaced fun c => (Digit.ofChar? c).isSome
  modify fun input => { input with rest := trimStart input.rest }
  if digits.isEmpty then return none
  let n := ofDigits (takeDigits digits).1
  if n < UInt32.size then return some n else failure

/-- Reads a counted repetition after its opening brace: the least and the greatest number. -/
def repetitionRange : Parse (Nat × Option Nat) := do
  skipSpace
  let least ← repetitionCount
  if ← nextIs ',' then
    skipSpace
    if ← nextIs '\x7d' then
      match least with
      | some m => return (m, none)
      | none => failure
    else
      let greatest ← repetitionCount
      expect '\x7d'
      match least, greatest with
      | some m, some n => if m ≤ n then return (m, some n) else failure
      | _, _ => failure
  else
    expect '\x7d'
    match least with
    | some m => return (m, some m)
    | none => failure

/-- Repeats the last of some parts, which are given last first. The mark of a lazy repetition
follows. -/
def repeatLast (least : Nat) (greatest : Option Nat) : List Tree → Parse (List Tree)
  | part :: before => do
    let lazy ← nextIs '?'
    let greedy := lazy == (← get).flags.swapGreed
    if part.isRepeatable then return .repetition least greatest greedy part :: before else failure
  | [] => failure

/-! ### Groups -/

/-- Whether a character may begin the name of a group. -/
def beginsName (c : Char) : Bool :=
  c = '_' || isAlphabetic c

/-- Whether a character may stand in the name of a group. -/
def isNameChar (c : Char) : Bool :=
  c = '_' || c = '.' || c = '[' || c = ']' || isAlphanumeric c

/-- Reads the name of a group after its opening angle bracket. -/
def groupName : Parse Unit := do
  let cs := (← get).rest
  let name := cs.takeWhile (· ≠ '>')
  match name, cs.dropWhile (· ≠ '>') with
  | c :: more, _ :: rest => do
    if !beginsName c || !more.all isNameChar then failure
    if (← get).names.contains name then failure
    modify fun input => { input with rest, names := name :: input.names }
  | _, _ => failure

/-- The flags after one more was read, on or off. -/
def Flags.put (flags : Flags) (on : Bool) : Char → Option Flags
  | 'i' => some { flags with ignoreCase := on }
  | 'm' => some { flags with multiLine := on }
  | 's' => some { flags with dotAll := on }
  | 'U' => some { flags with swapGreed := on }
  | 'u' => some { flags with latin := !on }
  | 'R' => some { flags with returns := on }
  | 'x' => some { flags with verbose := on }
  | _ => none

/-- Reads flags up to a colon or a closing parenthesis, and gives that character. A flag may
come once, on or off, and a minus sign must be followed by a flag. -/
def readFlags : (fuel : Nat) → (seen : List Char) → (off : Bool) → (fresh : Bool) → Flags →
    Parse (Char × Flags)
  | 0, _, _, _, _ => failure
  | fuel + 1, seen, off, fresh, flags => do
    let c ← next
    if c = ':' ∨ c = ')' then
      if fresh then failure else return (c, flags)
    else if c = '-' then
      if off then failure else readFlags fuel seen true true flags
    else if seen.contains c then failure
    else
      let flags ← (flags.put (!off) c : Option Flags)
      readFlags fuel (c :: seen) off false flags

/-! ### Single symbols -/

/-- A character that stands for itself. -/
def literal (flags : Flags) (c : Char) : Tree :=
  .symbol (flags.closed (.single c)) 0

/-- Any character, or any that ends no line. -/
def dot (flags : Flags) : Option Tree :=
  if flags.latin then none
  else if flags.dotAll then some (.symbol .all 0)
  else if flags.returns then some (.symbol (.complement (.union (.single '\r') (.single '\n'))) 0)
  else some (.symbol (.complement (.single '\n')) 0)

/-- The start of the text, or of a line. -/
def startAnchor (flags : Flags) : Tree :=
  .boundary <|
    if flags.multiLine then if flags.returns then .returnLineStart else .lineStart else .textStart

/-- The end of the text, or of a line. -/
def endAnchor (flags : Flags) : Tree :=
  .boundary <|
    if flags.multiLine then if flags.returns then .returnLineEnd else .lineEnd else .textEnd

/-- Reads one symbol outside a class. -/
def primitive : Parse Tree := do
  let flags := (← get).flags
  match ← next with
  | '\\' => do
    match ← escape with
    | .char c byte => return literal flags (← plainChar c byte)
    | .set s => return .symbol s 0
    | .boundary b => return .boundary b
  | '.' => (dot flags : Option Tree)
  | '^' => return startAnchor flags
  | '$' => return endAnchor flags
  | c => return literal flags c

/-! ### Expressions -/

mutual

/-- Reads alternatives up to a closing parenthesis or the end of the text. -/
def alternatives : (fuel : Nat) → Parse (List Tree)
  | 0 => failure
  | fuel + 1 => do
    let first ← branch fuel []
    if ← nextIs '|' then return first :: (← alternatives fuel) else return [first]

/-- Reads one alternative; `parts` is what was read of it, last first. -/
def branch : (fuel : Nat) → (parts : List Tree) → Parse Tree
  | 0, _ => failure
  | fuel + 1, parts => do
    skipSpace
    match (← get).rest with
    | [] => return .ofParts parts.reverse
    | '|' :: _ => return .ofParts parts.reverse
    | ')' :: _ => return .ofParts parts.reverse
    | '(' :: cs => do
      continueAt cs
      let part ← group fuel
      branch fuel (part :: parts)
    | '[' :: cs => do
      continueAt cs
      let { set := s, depth } ← bracketClass fuel
      branch fuel (.symbol s depth :: parts)
    | '*' :: cs => do
      continueAt cs
      branch fuel (← repeatLast 0 none parts)
    | '+' :: cs => do
      continueAt cs
      branch fuel (← repeatLast 1 none parts)
    | '?' :: cs => do
      continueAt cs
      branch fuel (← repeatLast 0 (some 1) parts)
    | '\x7b' :: cs => do
      continueAt cs
      let (least, greatest) ← repetitionRange
      skipSpace
      branch fuel (← repeatLast least greatest parts)
    | _ :: _ => do
      let part ← primitive
      branch fuel (part :: parts)

/-- Reads a group after its opening parenthesis. Flags that stand alone hold from there to the
end of the enclosing group. -/
def group : (fuel : Nat) → Parse Tree
  | 0 => failure
  | fuel + 1 => do
    skipSpace
    let outer := (← get).flags
    let body (captures : Bool) : Parse Tree := do
      let branches ← alternatives fuel
      expect ')'
      modify fun input => { input with flags := outer }
      return .group captures (.ofBranches branches)
    match (← get).rest with
    | '?' :: 'P' :: '<' :: cs => do
      continueAt cs
      groupName
      body true
    | '?' :: '<' :: cs => do
      continueAt cs
      groupName
      body true
    | '?' :: ')' :: _ => failure
    | '?' :: cs => do
      continueAt cs
      let (stop, flags) ← readFlags fuel [] false false outer
      modify fun input => { input with flags }
      if stop = ':' then body false else return .flags
    | _ => body true

end

/-- Reads a text as the tree of a pattern. -/
def Tree.parse (text : String) : Option Tree :=
  let cs := text.toList
  match alternatives (3 * cs.length + 3) { rest := cs } with
  | some (branches, input) => if input.rest.isEmpty then some (.ofBranches branches) else none
  | none => none

/-! ### Quoting -/

/-- The characters that have a meaning of their own in a pattern. -/
def isSpecial (c : Char) : Bool :=
  ['\\', '.', '+', '*', '?', '(', ')', '|', '[', ']', '\x7b', '\x7d', '^', '$', '#', '&', '-', '~']
    |>.contains c

/-- A pattern that matches exactly this text. -/
def quote (cs : List Char) : List Char :=
  cs.flatMap fun c => if isSpecial c then ['\\', c] else [c]

end PlatformAudit.Pattern
