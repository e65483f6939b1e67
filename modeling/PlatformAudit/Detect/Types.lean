import PlatformAudit.Detect.Hit

/-!
# References to types

If the resolver knows what a name refers to, the type is compared by namespace and
name, so a type of the same name in another namespace is not confused with it. If
it does not, only the spelling can be compared: the simple name of an identifier
or of a created type, any segment of a longer path.
-/

namespace PlatformAudit.Detect

open Text Code

/-- A type by namespace and name. -/
structure TypeRef where
  containing : String
  name : String
  deriving DecidableEq

/-- The full name of a type. -/
def TypeRef.fullName (t : TypeRef) : String :=
  t.containing ++ "." ++ t.name

/-- Whether nodes of a kind may refer to a type. -/
def mayReferToType : Kind → Bool
  | .identifier | .qualifiedName | .objectCreation | .memberAccess => true
  | _ => false

/-- Whether a symbol is a type. -/
def TypeRef.isSymbol (t : TypeRef) (s : Symbol) : Bool :=
  t.name = s.declaredType && sameIgnoringCase t.containing.toList s.containingNamespace.toList

/-- Whether the spelling of a node allows it to refer to a type. -/
def TypeRef.isSpelled (t : TypeRef) (node : Node) : Bool :=
  let text := trim node.label.toList
  match node.kind with
  | .identifier | .objectCreation => t.name.toList = simpleName text
  | _ => (segments '.' (beforeFirst '<' text)).any fun part => trim part = t.name.toList

/-- Whether a node refers to a type, as far as is known. -/
def TypeRef.isMeantBy (t : TypeRef) (resolver : Option Resolver) (node : Node) : Bool :=
  match resolver.bind (·.resolve node) with
  | some s => t.isSymbol s
  | none => t.isSpelled node

/-- The reference of a node to one of some types, the first that fits. -/
def typeHit? (types : List TypeRef) (resolver : Option Resolver) (node : Node) : Option Hit :=
  if mayReferToType node.kind then
    (types.find? (·.isMeantBy resolver node)).map fun t =>
      { line := node.line
        subject := String.ofList (trim node.label.toList)
        evidence := t.fullName }
  else none

/-- The references of a unit to some types. -/
def typeHits (types : List TypeRef) (u : LoadedUnit) : List Hit :=
  collect (typeHit? types u.resolver) u.unit.root

end PlatformAudit.Detect
