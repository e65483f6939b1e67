import PlatformAudit.Text.Segment

/-!
# Path globs

A glob is a path pattern with wildcards: a question mark for one byte, a star for
any bytes, classes in brackets, alternatives in braces. Wildcards cross
separators. Two stars that make up a whole path component stand for any number of
components; inside alternatives the edges of an alternative count as the edges of
a component.

This module reads the notation into tokens. Nothing escapes a character, since a
backslash is a separator.
-/

namespace PlatformAudit.Glob

/-- A part of a glob. -/
inductive Token where
  | literal (c : Char)
  /-- One byte. -/
  | any
  /-- Any number of bytes. -/
  | many
  /-- Any number of leading components. -/
  | leading
  /-- Any number of trailing components, at least one. -/
  | trailing
  /-- A separator, or any components between two separators. -/
  | between
  /-- A byte of a class, or one outside it. -/
  | bracket (negated : Bool) (ranges : List (Char × Char))
  /-- One of several globs. -/
  | alternatives (branches : List (List Token))

/-- Why a text is no glob. -/
inductive Error where
  | unclosedBracket
  | emptyRange (lo hi : Char)
  | unopenedGroup
  | unclosedGroup
  deriving DecidableEq

/-- The message of an error. -/
def Error.message : Error → String
  | .unclosedBracket => "unclosed character class; missing ']'"
  | .emptyRange lo hi => "invalid range; '" ++ lo.toString ++ "' > '" ++ hi.toString ++ "'"
  | .unopenedGroup =>
    "unopened alternate group; missing '\x7b' (maybe escape '\x7d' with '[\x7d]'?)"
  | .unclosedGroup =>
    "unclosed alternate group; missing '\x7d' (maybe escape '\x7b' with '[\x7b]'?)"

/-! ### Brackets -/

/-- Reads a class from its first member on. `ranges` are those read so far, last first, and
`extending` tells that a hyphen waits for the upper end of the last one. -/
def readBracket : (isFirst extending : Bool) → (ranges : List (Char × Char)) → List Char →
    Except Error (List (Char × Char) × List Char)
  | _, _, _, [] => .error .unclosedBracket
  | isFirst, extending, ranges, c :: cs =>
    if c = ']' ∧ !isFirst then
      .ok ((if extending then ('-', '-') :: ranges else ranges).reverse, cs)
    else if c = '-' ∧ !isFirst ∧ !extending then readBracket false true ranges cs
    else
      match extending, ranges with
      | true, (lo, _) :: earlier =>
        if c < lo then .error (.emptyRange lo c)
        else readBracket false false ((lo, c) :: earlier) cs
      | _, _ => readBracket false false ((c, c) :: ranges) cs

/-- Reads a class after its opening bracket. -/
def bracket (cs : List Char) : Except Error (Token × List Char) := do
  let (negated, cs) := match cs with
    | '!' :: cs => (true, cs)
    | '^' :: cs => (true, cs)
    | cs => (false, cs)
  let (ranges, rest) ← readBracket true false [] cs
  return (.bracket negated ranges, rest)

/-! ### Groups -/

/-- A group of alternatives that is still open. -/
structure Group where
  /-- The finished alternatives, last first. -/
  branches : List (List Token)
  /-- The tokens before the group, last first. -/
  before : List Token

/-- A glob that is being read: the tokens of the current branch, last first, and the groups that
enclose it, innermost first. -/
structure Draft where
  tokens : List Token := []
  groups : List Group := []

namespace Draft

/-- Adds tokens to the current branch. -/
def push (d : Draft) (ts : List Token) : Draft :=
  { d with tokens := ts.reverse ++ d.tokens }

/-- Opens a group. -/
def openGroup (d : Draft) : Draft :=
  { tokens := [], groups := ⟨[], d.tokens⟩ :: d.groups }

/-- Begins the next alternative; outside a group a comma stands for itself. -/
def comma (d : Draft) : Draft :=
  match d.groups with
  | [] => d.push [.literal ',']
  | g :: gs =>
    { tokens := [], groups := { g with branches := d.tokens.reverse :: g.branches } :: gs }

/-- Closes a group. -/
def closeGroup (d : Draft) : Except Error Draft :=
  match d.groups with
  | [] => .error .unopenedGroup
  | g :: gs =>
    let group := .alternatives (d.tokens.reverse :: g.branches).reverse
    .ok { tokens := group :: g.before, groups := gs }

/-- Takes two stars that end a component, where the separator before them is the last token. Stars
that follow others of their kind add nothing to them. -/
def components (d : Draft) (atEnd : Bool) : Draft :=
  match d.tokens with
  | .leading :: _ => d
  | .trailing :: _ => d
  | _ :: ts => { d with tokens := (if atEnd then .trailing else .between) :: ts }
  | [] => d

end Draft

/-- What two stars stand for, given the character before them and the text after them; also how
many characters of that text they take. -/
def doubleStar (d : Draft) (prev : Option Char) (cs : List Char) : Draft × Nat :=
  let plain := d.push [.many, .many]
  let inGroup := !d.groups.isEmpty
  match d.tokens, cs with
  | [], [] => (d.push [.leading], 0)
  | [], c :: _ => if c = '/' then (d.push [.leading], 1) else (plain, 0)
  | _ :: _, cs =>
    if prev ≠ some '/' then (plain, 0)
    else
      match cs with
      | [] => (d.components true, 0)
      | '/' :: _ => (d.components false, 1)
      | c :: _ => if inGroup ∧ (c = ',' ∨ c = '\x7d') then (d.components true, 0) else (plain, 0)

/-- Reads a glob; `prev` is the character before the text. -/
def read : (fuel : Nat) → (prev : Option Char) → Draft → List Char → Except Error Draft
  | 0, _, d, _ => .ok d
  | _ + 1, _, d, [] => .ok d
  | fuel + 1, prev, d, c :: cs =>
    match c with
    | '?' => read fuel (some c) (d.push [.any]) cs
    | '*' =>
      match cs with
      | '*' :: cs =>
        match doubleStar d prev cs with
        | (d, 0) => read fuel (some '*') d cs
        | (d, _ + 1) => read fuel (some '/') d cs.tail
      | cs => read fuel (some c) (d.push [.many]) cs
    | '[' => do
      let (t, rest) ← bracket cs
      read fuel (some ']') (d.push [t]) rest
    | '\x7b' => read fuel (some c) d.openGroup cs
    | '\x7d' => do
      let d ← d.closeGroup
      read fuel (some c) d cs
    | ',' => read fuel (some c) d.comma cs
    | c => read fuel (some c) (d.push [.literal c]) cs

/-- Reads the notation of a glob. -/
def parse (cs : List Char) : Except Error (List Token) := do
  let d ← read cs.length none {} cs
  if d.groups.isEmpty then return d.tokens.reverse else throw .unclosedGroup

end PlatformAudit.Glob
