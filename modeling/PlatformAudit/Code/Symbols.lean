import PlatformAudit.Code.Tree
import PlatformAudit.Table
import PlatformAudit.Text.Segment

/-!
# Symbols

What is known about the names of a unit beyond their spelling: which type a node
refers to, and which types and interfaces a type extends. A resolver answers such
questions; it may know nothing about a node or a type. The usual resolver looks
the answers up in tables.
-/

namespace PlatformAudit.Code

/-- The type that a node refers to. -/
structure Symbol where
  declaredType : String
  containingNamespace : String
  deriving DecidableEq

/-- A name within a namespace; the global namespace has no name. -/
def qualify (containing name : String) : String :=
  if containing.isEmpty then name else containing ++ "." ++ name

/-- The full name of a symbol's type. -/
def Symbol.qualifiedType (s : Symbol) : String :=
  qualify s.containingNamespace s.declaredType

/-- Answers questions about names. -/
structure Resolver where
  resolve : Node → Option Symbol
  /-- The type that a type directly extends. -/
  baseType : String → Option String := fun _ => none
  /-- The interfaces that a type directly implements. -/
  interfaces : String → List String := fun _ => []

/-- The tables of a resolver. -/
structure SymbolTables where
  nodes : Table UInt32 Symbol := .empty
  bases : Table String String := .empty
  interfaces : Table String (List String) := .empty

namespace SymbolTables

/-- The entry of a type, under its name as written or else under its last segment. -/
def lookup (t : Table String α) (typeName : String) : Option α :=
  t.find? typeName <|>
    t.find? (String.ofList (Text.afterLast '.' typeName.toList))

/-- The resolver that looks answers up in the tables. -/
def resolver (t : SymbolTables) : Resolver where
  resolve node := node.id.bind t.nodes.find?
  baseType := lookup t.bases
  interfaces typeName := (lookup t.interfaces typeName).getD []

end SymbolTables

end PlatformAudit.Code
