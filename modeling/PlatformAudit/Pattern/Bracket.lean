import PlatformAudit.Pattern.Escape

/-!
# Classes in brackets

A class in brackets lists characters, ranges, escapes, named classes and further
classes in brackets, and joins such lists by intersection, difference and symmetric
difference, from left to right. A class is closed under case before it is negated,
and so is every class inside it and each side of an operation.

Beside the class its nesting is counted: one level for a pair of brackets, one for
an operation, and one for a list of two or more items.
-/

namespace PlatformAudit.Pattern

/-- A class and its nesting. -/
structure Nested where
  set : CharSet
  depth : Nat

/-- A set operation between the parts of a class. -/
inductive SetOp where
  | inter
  | difference
  | exclusive

/-- Applies a set operation. -/
def SetOp.apply : SetOp → CharSet → CharSet → CharSet
  | .inter, a, b => .inter a b
  | .difference, a, b => a.without b
  | .exclusive, a, b => a.exclusive b

/-- A list of items: its class, its length and its greatest nesting. -/
structure Items where
  set : CharSet := .none
  count : Nat := 0
  depth : Nat := 0

namespace Items

/-- The list with one more item. -/
def add (items : Items) (item : Nested) : Items :=
  { set := .union items.set item.set
    count := items.count + 1
    depth := max items.depth item.depth }

/-- The list as a class. -/
def nested (items : Items) : Nested :=
  { set := items.set, depth := if items.count < 2 then items.depth else items.depth + 1 }

end Items

/-- Reads a named class after its opening bracket, or takes nothing if there is none. -/
def namedClass? : Parse (Option CharSet) := do
  let { rest, flags, .. } ← get
  match rest with
  | ':' :: cs =>
    let (negated, cs) := match cs with
      | '^' :: cs => (true, cs)
      | cs => (false, cs)
    let name := cs.takeWhile (· ≠ ':')
    match cs.dropWhile (· ≠ ':'), asciiClass? (String.ofList name) with
    | ':' :: ']' :: rest, some s => do
      continueAt rest
      let s := flags.closed s
      if negated then return some (← (negation flags s : Option CharSet)) else return some s
    | _, _ => return none
  | _ => return none

/-- A character of a class, or a class that stands in it. -/
def classAtom : Parse (Char ⊕ CharSet) := do
  let c ← next
  let atom ← if c = '\\' then escape else pure (.char c false)
  match atom with
  | .char c _ => if (← get).flags.latin && 128 ≤ c.toNat then failure else return .inl c
  | .set s => return .inr s
  | .boundary _ => failure

/-- A class of one atom. -/
def atomSet : Char ⊕ CharSet → CharSet
  | .inl c => .single c
  | .inr s => s

/-- The character that follows a hyphen. In the verbose notation it is looked for behind blanks
and the sign of a comment, but not behind the comment. -/
def afterHyphen (flags : Flags) (cs : List Char) : Option Char :=
  if flags.verbose then
    match Text.trimStart cs with
    | '#' :: cs => (Text.trimStart cs).head?
    | cs => cs.head?
  else cs.head?

/-- Reads an atom of a class, or a range. A hyphen before the closing bracket or before another
hyphen makes no range. -/
def classRange : Parse CharSet := do
  let low ← classAtom
  skipSpace
  let { rest, flags, .. } ← get
  match rest with
  | [] => failure
  | '-' :: cs =>
    if afterHyphen flags cs = some ']' ∨ afterHyphen flags cs = some '-' then return atomSet low
    continueAt cs
    skipSpace
    match low, ← classAtom with
    | .inl lo, .inl hi => if lo ≤ hi then return .range lo hi else failure
    | _, _ => failure
  | _ => return atomSet low

/-- Reads the hyphens with which a class begins. -/
def leadingHyphens (items : Items) : (fuel : Nat) → Parse Items
  | 0 => return items
  | fuel + 1 => do
    if ← nextIs '-' then
      skipSpace
      leadingHyphens (items.add { set := .single '-', depth := 0 }) fuel
    else return items

/-- Reads what begins a class: its negation, hyphens, and a bracket in first place. -/
def classStart (fuel : Nat) : Parse (Bool × Items) := do
  skipSpace
  let negated ← nextIs '^'
  skipSpace
  let items ← leadingHyphens {} fuel
  if items.count = 0 && (← nextIs ']') then
    skipSpace
    return (negated, Items.add {} { set := .single ']', depth := 0 })
  else return (negated, items)

/-- What was read so far as one class: the operation that waits for its right side, if there is
one, and the items that were read of that side. -/
def settle (flags : Flags) (pending : Option (SetOp × Nested)) (items : Items) : Nested :=
  match pending with
  | none => { items.nested with set := flags.closed items.set }
  | some (op, left) =>
    { set := flags.closed (op.apply left.set (flags.closed items.set))
      depth := max left.depth items.nested.depth + 1 }

/-- Reads the rest of a class. -/
def classBody (negated : Bool) : (fuel : Nat) → (pending : Option (SetOp × Nested)) → Items →
    Parse Nested
  | 0, _, _ => failure
  | fuel + 1, pending, items => do
    skipSpace
    let { rest, flags, .. } ← get
    match rest with
    | [] => failure
    | ']' :: cs => do
      continueAt cs
      let whole := settle flags pending items
      let s ← if negated then (negation flags whole.set : Option CharSet) else pure whole.set
      return { set := s, depth := whole.depth + 1 }
    | '[' :: cs => do
      continueAt cs
      match ← namedClass? with
      | some s => classBody negated fuel pending (items.add { set := s, depth := 0 })
      | none => do
        let (innerNegated, start) ← classStart fuel
        let inner ← classBody innerNegated fuel none start
        classBody negated fuel pending (items.add inner)
    | '&' :: '&' :: cs => do
      continueAt cs
      classBody negated fuel (some (.inter, settle flags pending items)) {}
    | '-' :: '-' :: cs => do
      continueAt cs
      classBody negated fuel (some (.difference, settle flags pending items)) {}
    | '~' :: '~' :: cs => do
      continueAt cs
      classBody negated fuel (some (.exclusive, settle flags pending items)) {}
    | _ => do
      let s ← classRange
      classBody negated fuel pending (items.add { set := s, depth := 0 })

/-- Reads a class after its opening bracket. -/
def bracketClass (fuel : Nat) : Parse Nested := do
  let (negated, start) ← classStart fuel
  classBody negated fuel none start

end PlatformAudit.Pattern
