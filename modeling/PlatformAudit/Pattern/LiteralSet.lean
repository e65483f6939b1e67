import PlatformAudit.Pattern.Shape

/-!
# Patterns that are a few texts

Some patterns match exactly the texts of a short list: `colou?r`, `[ab]c`, `one|two`. The
list is found by multiplying out, within limits on the size of a class, on the number
and on the length of the texts. Such a pattern is searched for text by text and has no
automaton. Nor has a choice that is written as very many texts.

A class without characters has an empty list, and so has all that contains it in a
sequence, however often it is repeated.
-/

namespace PlatformAudit.Pattern

open Text

/-- The texts that a pattern matches, if their list is known. -/
abbrev Texts := Option (List (List Char))

namespace Texts

/-- The number of characters beyond which a class is not multiplied out. -/
def classLimit : Nat := 10

/-- The number of repetitions beyond which none is multiplied out. -/
def repeatLimit : Nat := 10

/-- The number of bytes beyond which a text is not kept. -/
def lengthLimit : Nat := 100

/-- The number of texts beyond which a list is not kept. -/
def countLimit : Nat := 250

/-- A list without texts that are the same as the one before them. -/
def dedup : List (List Char) → List (List Char)
  | [] => []
  | [t] => [t]
  | t :: u :: rest => if t = u then dedup (u :: rest) else t :: dedup (u :: rest)

/-- The texts of a class. -/
def ofRanks (ranks : CodeRanges) : Texts :=
  if classLimit < ranks.foldl (fun n (lo, hi) => n + (hi - lo + 1)) 0 then none
  else some (ranks.flatMap fun (lo, hi) =>
    (List.range (hi - lo + 1)).map fun k => [Char.ofNat (codeOfRank (lo + k))])

/-- A list, unless a text of it is too long. -/
def bounded (ts : List (List Char)) : Texts :=
  if ts.all fun t => byteLength t ≤ lengthLimit then some ts else none

/-- The texts of one list, each followed by those of another. -/
def cross (first : Texts) (second : Unit → Texts) : Texts := do
  let ts ← first
  if ts.isEmpty then some []
  else
    let us ← second ()
    if countLimit < ts.length * us.length then none
    else bounded (dedup (ts.flatMap fun t => us.map fun u => t ++ u))

/-- The texts of one list or another. -/
def union (first second : Texts) : Texts := do
  let ts ← first
  let us ← second
  if ts.length + us.length ≤ countLimit then some (dedup (ts ++ us))
  else if (ts ++ us).all fun t => byteLength t ≤ 4 then
    let ts := dedup ts
    let us := dedup us
    if ts.length + us.length ≤ countLimit then some (dedup (ts ++ us)) else none
  else none

/-- The texts of a repetition of a list so many times. -/
def power (ts : Texts) : (n : Nat) → Texts
  | 0 => some [[]]
  | n + 1 => cross (power ts n) fun _ => ts

/-- A list that is known only if it is empty. -/
def onlyEmpty : Texts → Texts
  | some [] => some []
  | _ => none

/-- The texts of a repetition. -/
def repeated (ts : Texts) (least : Nat) (greatest : Option Nat) : Texts :=
  if least = 0 then
    union (if greatest = some 1 then ts else onlyEmpty ts) (some [[]])
  else
    let power := power ts (min least repeatLimit)
    if greatest = some least ∧ least ≤ repeatLimit then power else onlyEmpty power

end Texts

mutual

/-- The texts that a shape matches, where conditions on positions are taken to hold. -/
def Shape.texts : Shape → Texts
  | .empty | .boundary _ => some [[]]
  | .literal cs => Texts.bounded [cs]
  | .oneOf ranks => Texts.ofRanks ranks
  | .capture body => body.texts
  | .concat parts => textsOfSequence parts
  | .choice branches => textsOfChoice branches
  | .repetition least greatest _ body => Texts.repeated body.texts least greatest

/-- The texts that some shapes match one after the other. -/
def textsOfSequence : List Shape → Texts
  | [] => some [[]]
  | p :: ps => Texts.cross p.texts fun _ => textsOfSequence ps

/-- The texts that one of some shapes matches. -/
def textsOfChoice : List Shape → Texts
  | [] => some []
  | p :: ps => Texts.union p.texts (textsOfChoice ps)

end

mutual

/-- Whether a shape has neither captures nor conditions on positions. -/
def Shape.isPlain : Shape → Bool
  | .empty | .literal _ | .oneOf _ => true
  | .boundary _ | .capture _ => false
  | .concat parts => allPlain parts
  | .choice branches => allPlain branches
  | .repetition _ _ _ body => body.isPlain

/-- Whether some shapes have neither captures nor conditions on positions. -/
def allPlain : List Shape → Bool
  | [] => true
  | p :: ps => p.isPlain && allPlain ps

end

/-- Whether a pattern is a short list of texts, at least one and none of them empty. -/
def Shape.isLiteralSet (s : Shape) : Bool :=
  s.isPlain &&
    match s.texts with
    | some ts => !ts.isEmpty && ts.all fun t => !t.isEmpty
    | none => false

/-- The text of a literal. -/
def Shape.literal? : Shape → Option (List Char)
  | .literal cs => some cs
  | _ => none

/-- The number of texts from which on a choice between them has no automaton. -/
def manyTexts : Nat := 3000

/-- Whether a pattern is a choice between very many texts. -/
def Shape.isLongChoice : Shape → Bool
  | .choice branches =>
    manyTexts ≤ branches.length && branches.all fun b => b.literal?.isSome
  | _ => false

end PlatformAudit.Pattern
