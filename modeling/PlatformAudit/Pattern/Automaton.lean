import PlatformAudit.Pattern.LiteralSet
import Std.Data.HashMap

/-!
# The size of the automaton of a pattern

A pattern is run by an automaton over the bytes of a text, and by a second one that
reads a text from its end. Both are built state by state from the shape of the pattern,
and a pattern is refused when one of them would take more room than there is. The
automata themselves are never needed, only whether they fit, so building one means
counting.

* Every state takes 32 bytes. A state that chooses between ranges of bytes takes 8 more
  for each, a state that branches takes 4 more for each state that it leads to.
* A sequence of bytes is a sequence of states. A counted repetition is as many copies of
  its body.
* A class of characters beyond the Latin alphabet is a small automaton over sequences of
  byte ranges. States that go on alike are shared as far as a table of bounded size
  remembers them; what the table holds depends on the numbers of the states, and so the
  copies of a class may differ in size.
* A pattern that may begin anywhere has a loop over all bytes before it, and the forward
  automaton has a state at each end of every group that captures.
-/

namespace PlatformAudit.Pattern

/-! ### Counting -/

/-- The number of bytes that an automaton may take. -/
def sizeLimit : Nat := 10 * 1024 * 1024

/-- What was built so far: the number of states, and the bytes that they take beyond their own
size. -/
structure Build where
  states : Nat
  extra : Nat

/-- The bytes taken so far. -/
def Build.bytes (b : Build) : Nat :=
  32 * b.states + b.extra

/-- A step of building an automaton, which fails when there is no more room. -/
abbrev Construct := StateT Build Option

/-- Takes some bytes beyond the size of the states. -/
def takeExtra (extra : Nat) : Construct Unit := do
  let b ← get
  let b := { b with extra := b.extra + extra }
  if sizeLimit < b.bytes then failure
  set b

/-- Adds some states and gives the number of the first of them. -/
def addStates (count : Nat) : Construct Nat := do
  let b ← get
  let larger := { b with states := b.states + count }
  if sizeLimit < larger.bytes then failure
  set larger
  return b.states

/-- Adds a state that takes some bytes beyond its own size, and gives its number. -/
def addState (extra : Nat) : Construct Nat := do
  let n ← addStates 1
  takeExtra extra
  return n

/-- The bytes of a branch. -/
def branchBytes : Nat := 4

/-- The bytes of a range in a state that chooses. -/
def rangeBytes : Nat := 8

/-- Connects the end of a part to what follows, which takes room if the part ends in a branching
state. -/
def connect (branching : Bool) : Construct Unit :=
  if branching then takeExtra branchBytes else pure ()

/-! ### Classes -/

/-- A connection to a state over a range of bytes. -/
structure Edge where
  range : ByteRange
  next : Nat
  deriving DecidableEq

/-- Mixes a number into a hash of 64 bits. -/
def mix (h : UInt64) (n : Nat) : UInt64 :=
  (h ^^^ n.toUInt64) * 1099511628211

/-- The hash of no numbers. -/
def emptyHash : UInt64 := 14695981039346656037

/-- The hash of some connections. -/
def edgesHash (edges : List Edge) : UInt64 :=
  edges.foldl (fun h e => mix (mix (mix h e.range.1) e.range.2) e.next) emptyHash

/-- A table of bounded size, which remembers one entry in each of its places. -/
abbrev Places (κ : Type) := Std.HashMap Nat (κ × Nat)

/-- Building with a table of what was built. -/
abbrev Shared (κ : Type) := StateT (Places κ) Construct

/-- Makes a new state for a key and puts it at its place in the table. -/
def newState (place : Nat) (key : κ) (make : Construct Nat) : Shared κ Nat := do
  let n ← make
  modify fun places => places.insert place (key, n)
  return n

/-- The state for a key at its place in the table; a new one is made if that place does not hold
the key. -/
def sharedState [DecidableEq κ] (place : Nat) (key : κ) (make : Construct Nat) : Shared κ Nat := do
  match (← get).get? place with
  | some (k, n) => if k = key then return n else newState place key make
  | none => newState place key make

/-- A state under construction: its finished connections, last first, and the range of the one
that is still open. -/
structure OpenState where
  edges : List Edge
  last : Option ByteRange

/-- The connections of a state when the open one leads to `next`, in their order. -/
def OpenState.closed (s : OpenState) (next : Nat) : List Edge :=
  match s.last with
  | some range => (⟨range, next⟩ :: s.edges).reverse
  | none => s.edges.reverse

/-- The number of places for states of the forward automaton. -/
def forwardPlaces : Nat := 10000

/-- The number of places for states of the backward automaton. -/
def backwardPlaces : Nat := 1000

/-- The state with some connections. -/
def stateOf (edges : List Edge) : Shared (List Edge) Nat :=
  sharedState ((edgesHash edges).toNat % forwardPlaces) edges (addState (rangeBytes * edges.length))

/-- Finishes the states along a sequence, which leads to `target` in the end. -/
def finishPath (target : Nat) : List OpenState → Shared (List Edge) Nat
  | [] => return target
  | s :: rest => do
    let next ← finishPath target rest
    stateOf (s.closed next)

/-- Adds a sequence to the open states along the sequence before it. What both begin with stays
open. -/
def addPath (target : Nat) : List OpenState → List ByteRange → Shared (List Edge) (List OpenState)
  | s :: rest, range :: ranges =>
    if s.last = some range then do
      return s :: (← addPath target rest ranges)
    else do
      let next ← finishPath target rest
      return { edges := (s.closed next).reverse, last := some range } ::
        ranges.map fun range => { edges := [], last := some range }
  | states, _ => return states

/-- Adds sequences one after the other. -/
def addPaths (target : Nat) : List (List ByteRange) → List OpenState →
    Shared (List Edge) (List OpenState)
  | [], states => return states
  | path :: paths, states => do addPaths target paths (← addPath target states path)

/-- The states of a class in the forward automaton. -/
def forwardClass (paths : List (List ByteRange)) : Construct Unit := do
  let target ← addState 0
  let build : Shared (List Edge) Nat := do
    finishPath target (← addPaths target paths [{ edges := [], last := none }])
  let _ ← build.run ∅

/-- Adds the states of a sequence from its first byte on, each of which leads to the one before. -/
def addBackward : List ByteRange → (last : Nat) → Shared (Nat × ByteRange) Nat
  | [], last => return last
  | range :: ranges, last => do
    let place := (mix (mix (mix emptyHash last) range.1) range.2).toNat % backwardPlaces
    addBackward ranges (← sharedState place (last, range) (addState 0))

/-- Adds sequences one after the other, and a branch to the last state of each. -/
def addAllBackward (target : Nat) : List (List ByteRange) → Shared (Nat × ByteRange) Unit
  | [] => return ()
  | path :: paths => do
    let _ ← addBackward path target
    takeExtra branchBytes
    addAllBackward target paths

/-- The states of a class in the backward automaton. -/
def backwardClass (paths : List (List ByteRange)) : Construct Unit := do
  let _ ← addState 0
  let target ← addState 0
  let _ ← (addAllBackward target paths).run ∅

/-- The states of a class. One that holds plain Latin characters only is a single state that
chooses. -/
def classStates (backward : Bool) (ranks : Text.CodeRanges) : Construct Unit := do
  if ranks.all fun (_, hi) => hi < 128 then
    let _ ← addState 0
    let _ ← addState (rangeBytes * ranks.length)
  else if backward then backwardClass (byteSequences ranks)
  else forwardClass (byteSequences ranks)

/-! ### Choices between texts -/

/-- Texts by their bytes. A text that ends at a node closes the list of what goes on from there,
and texts that come later begin a new one. -/
inductive Trie where
  | node (finished : List (List (Nat × Trie))) (current : List (Nat × Trie))

namespace Trie

/-- No text. -/
def empty : Trie :=
  .node [] []

/-- Whether nothing goes on from here. -/
def isLeaf : Trie → Bool
  | .node finished current => current.isEmpty && finished.all List.isEmpty

/-- Replaces the entry of a byte, or adds one. -/
def update (b : Nat) (f : Trie → Trie) : List (Nat × Trie) → List (Nat × Trie)
  | [] => [(b, f empty)]
  | (c, t) :: rest => if b = c then (c, f t) :: rest else (c, t) :: update b f rest

/-- Adds a text. -/
def insert : List Nat → Trie → Trie
  | [], .node finished current =>
    if current.isEmpty && !finished.isEmpty then .node finished current
    else .node (finished ++ [current]) []
  | b :: bs, .node finished current => .node finished (update b (insert bs) current)

mutual

/-- The states of the texts that go on from a node. -/
def states : Trie → Construct Unit
  | .node finished current => do
    statesOfLists finished
    statesOfList current
    let lists := (finished ++ [current]).filter fun l => !l.isEmpty
    let _ ← addState (branchBytes * (lists.length + finished.length))

/-- The states of lists of what goes on from a node. -/
def statesOfLists : List (List (Nat × Trie)) → Construct Unit
  | [] => return ()
  | l :: ls => do statesOfList l; statesOfLists ls

/-- The states of a list of what goes on from a node: those after each byte, and one for the bytes
themselves. -/
def statesOfList : List (Nat × Trie) → Construct Unit
  | [] => return ()
  | (b, t) :: rest => do
    statesAfter ((b, t) :: rest)
    let _ ← addState (if rest.isEmpty then 0 else rangeBytes * (rest.length + 1))

/-- The states after each byte of a list. -/
def statesAfter : List (Nat × Trie) → Construct Unit
  | [] => return ()
  | (_, t) :: rest => do
    if !t.isLeaf then t.states
    statesAfter rest

end

end Trie

/-- The bytes of a text. -/
def literalBytes (cs : List Char) : List Nat :=
  cs.flatMap fun c => bytesOf c.toNat

/-- The states of a choice between texts. -/
def literalChoice (backward : Bool) (texts : List (List Char)) : Construct Bool := do
  let _ ← addState 0
  let trie := texts.foldl (fun trie cs =>
    let bytes := literalBytes cs
    trie.insert (if backward then bytes.reverse else bytes)) Trie.empty
  trie.states
  return false

/-! ### All shapes -/

/-- Copies of a part, after a part that ends as told. -/
def copies (part : Construct Bool) : (n : Nat) → (branching : Bool) → Construct Bool
  | 0, branching, b => some (branching, b)
  | n + 1, branching, b =>
    match part b with
    | none => none
    | some (next, b) =>
      match connect branching b with
      | none => none
      | some (_, b) => copies part n next b

/-- Copies of a part each of which may be left out together with the later ones. -/
def optionalCopies (part : Construct Bool) : (n : Nat) → (branching : Bool) → Construct Bool
  | 0, branching, b => some (branching, b)
  | n + 1, branching, b =>
    match (addState (2 * branchBytes)) b with
    | none => none
    | some (_, b) =>
      match part b with
      | none => none
      | some (next, b) =>
        match connect branching b with
        | none => none
        | some (_, b) => optionalCopies part n next b

/-- Exactly `n` copies of a part. -/
def exactly (part : Construct Bool) : (n : Nat) → Construct Bool
  | 0 => do let _ ← addState 0; return false
  | n + 1 => do copies part n (← part)

/-- At least `n` copies of a part; `nullable` tells whether it may match the empty text. -/
def atLeast (part : Construct Bool) (nullable : Bool) : (n : Nat) → Construct Bool
  | 0 =>
    if nullable then do
      let branching ← part
      let _ ← addState (2 * branchBytes)
      connect branching
      let _ ← addState (2 * branchBytes)
      let _ ← addState 0
      return false
    else do
      let _ ← addState branchBytes
      connect (← part)
      return true
  | 1 => do
    let branching ← part
    let _ ← addState branchBytes
    connect branching
    return true
  | n + 2 => do
    let first ← exactly part (n + 1)
    let last ← part
    let _ ← addState branchBytes
    connect first
    connect last
    return true

/-- A repetition. -/
def repeatedPart (part : Construct Bool) (nullable : Bool) (least : Nat) :
    (greatest : Option Nat) → Construct Bool
  | none => atLeast part nullable least
  | some greatest =>
    if least = 0 ∧ greatest = 1 then do
      let _ ← addState (2 * branchBytes)
      let branching ← part
      let _ ← addState 0
      connect branching
      return false
    else if least = greatest then exactly part least
    else do
      let branching ← exactly part least
      let _ ← addState 0
      connect (← optionalCopies part (greatest - least) branching)
      return false

/-- Parts one after the other. -/
def partsInSequence : List (Construct Bool) → Construct Bool
  | [] => do let _ ← addState 0; return false
  | first :: rest => do
    rest.foldlM (fun branching part => do
      let next ← part
      connect branching
      return next) (← first)

/-- Alternatives, of which there are two or more. The branching state and the common end come
after the first two. -/
def alternativeParts : List (Construct Bool) → Construct Bool
  | first :: second :: rest => do
    let a ← first
    let b ← second
    let _ ← addState (2 * branchBytes)
    let _ ← addState 0
    connect a
    connect b
    for part in rest do
      let c ← part
      takeExtra branchBytes
      connect c
    return false
  | parts => partsInSequence parts

mutual

/-- The states of a shape; the result tells whether it ends in a branching state. -/
def Shape.construct (backward : Bool) : Shape → Construct Bool
  | .empty | .boundary _ => do
    let _ ← addState 0
    return false
  | .literal cs => do
    let _ ← addStates (Text.byteLength cs)
    return false
  | .oneOf ranks => do
    classStates backward ranks
    return false
  | .capture body =>
    if backward then body.construct backward
    else do
      let _ ← addState 0
      let branching ← body.construct backward
      let _ ← addState 0
      connect branching
      return false
  | .concat parts =>
    let parts := constructAll backward parts
    partsInSequence (if backward then parts.reverse else parts)
  | .choice branches =>
    match branches.mapM Shape.literal? with
    | some texts => literalChoice backward texts
    | none => alternativeParts (constructAll backward branches)
  | .repetition least greatest _ body =>
    repeatedPart (body.construct backward) (body.minLength.all (· = 0)) least greatest

/-- The states of some shapes. -/
def constructAll (backward : Bool) : List Shape → List (Construct Bool)
  | [] => []
  | p :: ps => p.construct backward :: constructAll backward ps

end

/-! ### Whole patterns -/

mutual

/-- Whether every match begins at a position that satisfies a condition. -/
def Shape.beginsAt (b : Boundary) : Shape → Bool
  | .boundary c => b = c
  | .capture body => body.beginsAt b
  | .concat parts => someBeginsAt b parts
  | .choice branches => allBeginAt b branches
  | .repetition least _ _ body => 0 < least && body.beginsAt b
  | .empty | .literal _ | .oneOf _ => false

/-- Whether one of the parts up to the first that may have a width begins at such a position. -/
def someBeginsAt (b : Boundary) : List Shape → Bool
  | [] => false
  | p :: ps => p.beginsAt b || (p.isWidthless && someBeginsAt b ps)

/-- Whether all alternatives begin at such a position. -/
def allBeginAt (b : Boundary) : List Shape → Bool
  | [] => true
  | p :: ps => p.beginsAt b && allBeginAt b ps

end

mutual

/-- The shape read from its end. -/
def Shape.reversed : Shape → Shape
  | .concat parts => .concat (reversedAll parts).reverse
  | .choice branches => .choice (reversedAll branches)
  | .capture body => .capture body.reversed
  | .repetition least greatest greedy body => .repetition least greatest greedy body.reversed
  | s => s

/-- The shapes read from their ends. -/
def reversedAll : List Shape → List Shape
  | [] => []
  | p :: ps => p.reversed :: reversedAll ps

end

/-- The loop over all bytes before a pattern that may begin anywhere. -/
def leadingLoop (anchored : Bool) : Construct Bool := do
  let _ ← addState 0
  if anchored then return false
  let _ ← addState 0
  let _ ← addState rangeBytes
  takeExtra branchBytes
  return true

/-- The states of the automaton that reads a text from its start. -/
def Shape.forward (s : Shape) : Construct Unit := do
  let loop ← leadingLoop (s.beginsAt .textStart)
  let _ ← Shape.construct false (.capture s)
  let _ ← addState 0
  connect loop

/-- The states of the automaton that reads a text from its end. -/
def Shape.backward (s : Shape) : Construct Unit := do
  let loop ← leadingLoop (s.reversed.beginsAt .textEnd)
  let branching ← s.construct true
  let _ ← addState 0
  connect branching
  connect loop

/-- Whether both automata of a pattern fit. -/
def Shape.fits (s : Shape) : Bool :=
  (s.forward.run ⟨0, 0⟩).isSome && (s.backward.run ⟨0, 0⟩).isSome

end PlatformAudit.Pattern
