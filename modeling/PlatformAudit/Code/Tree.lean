/-!
# Trees of source code

A node has a kind, perhaps a number that names it to a resolver, perhaps a text, a
line and children. Two traversals are defined: the list of all nodes in the order
of the text, by an explicit stack, and a walk that enters and leaves each node and
may pass over the children of some.
-/

namespace PlatformAudit.Code

/-- What a node of a tree is. -/
inductive Kind where
  | compilationUnit
  | namespaceDecl
  | importDecl
  | classDecl
  | interfaceDecl
  | methodDecl
  | baseType
  | attributeUse
  | qualifiedName
  | identifier
  | memberAccess
  | invocation
  | objectCreation
  | stringLiteral
  | other
  deriving DecidableEq

/-- A node of a tree. -/
structure Node where
  kind : Kind
  id : Option UInt32 := none
  text : Option String := none
  line : UInt32
  children : List Node := []

namespace Node

/-- The text of a node, empty if it has none. -/
def label (n : Node) : String :=
  n.text.getD ""

/-- The children of a kind, in order. -/
def childrenOf (n : Node) (kind : Kind) : List Node :=
  n.children.filter (·.kind = kind)

mutual

/-- The number of nodes of a tree. -/
def size : Node → Nat
  | ⟨_, _, _, _, children⟩ => sizeAll children + 1

/-- The number of nodes of some trees. -/
def sizeAll : List Node → Nat
  | [] => 0
  | n :: ns => n.size + sizeAll ns

end

mutual

/-- A node and all nodes below it, each before its children. -/
def preorder : Node → List Node
  | ⟨kind, id, text, line, children⟩ => ⟨kind, id, text, line, children⟩ :: preorderAll children

/-- The nodes of some trees, tree after tree. -/
def preorderAll : List Node → List Node
  | [] => []
  | n :: ns => n.preorder ++ preorderAll ns

end

/-- Takes nodes off a stack, putting the children of each in its place. -/
def unstack : (fuel : Nat) → (stack : List Node) → List Node
  | 0, _ => []
  | _ + 1, [] => []
  | fuel + 1, n :: stack => n :: unstack fuel (n.children ++ stack)

/-- A node and all nodes below it, by a stack. -/
def descendants (n : Node) : List Node :=
  unstack n.size [n]

/-! ### Walks -/

/-- What a walk does at a node, with a state of its own. -/
structure Visitor (σ : Type) where
  /-- Enters a node at a depth and tells whether to go on to its children. -/
  enter : Node → Nat → σ → Bool × σ
  /-- Leaves a node at a depth. -/
  leave : Node → Nat → σ → σ

mutual

/-- Walks a tree, depth first. -/
def walk (v : Visitor σ) (depth : Nat) : Node → σ → σ
  | ⟨kind, id, text, line, children⟩, s =>
    match v.enter ⟨kind, id, text, line, children⟩ depth s with
    | (true, s) => v.leave ⟨kind, id, text, line, children⟩ depth (walkAll v (depth + 1) children s)
    | (false, s) => v.leave ⟨kind, id, text, line, children⟩ depth s

/-- Walks some trees, one after the other. -/
def walkAll (v : Visitor σ) (depth : Nat) : List Node → σ → σ
  | [], s => s
  | n :: ns, s => walkAll v depth ns (walk v depth n s)

end

end Node

end PlatformAudit.Code
