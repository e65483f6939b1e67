import PlatformAudit.Detect.Hit

/-!
# Ancestors of declared types

A declaration has the ancestors that it writes down and those that the resolver
adds, directly or through other ancestors. They are visited breadth first, each
once, and at most `ancestorLimit` of them, so that the search ends whatever the
resolver answers.
-/

namespace PlatformAudit.Detect

open Text Code

/-- The greatest number of ancestors that are visited for a declaration. -/
def ancestorLimit : Nat := 256

/-- The types that the resolver knows a type to extend or implement. -/
def parents (resolver : Option Resolver) (name : String) : List String :=
  match resolver with
  | some r => (r.baseType name).toList ++ r.interfaces name
  | none => []

/-- Visits at most `room` names from a queue, and after each the names it leads to; names that
were seen are passed over. -/
def visit (next : String → List String) : (room : Nat) → (seen queue : List String) → List String
  | 0, _, _ => []
  | room + 1, seen, queue =>
    match queue.dropWhile fun name => seen.contains name with
    | [] => []
    | name :: queue => name :: visit next room (name :: seen) (queue ++ next name)

/-- The name of a declaration. -/
def declaredName (decl : Node) : String :=
  String.ofList (trim decl.label.toList)

/-- The names with which the search for the ancestors of a declaration begins. -/
def firstAncestors (resolver : Option Resolver) (decl : Node) : List String :=
  (decl.childrenOf .baseType).map (fun b => String.ofList (trim b.label.toList)) ++
    parents resolver (declaredName decl)

/-- The ancestors of a declaration, nearest first. -/
def ancestorsOf (resolver : Option Resolver) (decl : Node) : List String :=
  visit (parents resolver) ancestorLimit [] (firstAncestors resolver decl)

/-- The first of some types that a name refers to: by its full name if the name is qualified,
otherwise by its last segment. -/
def ancestorNamed? (types : List String) (name : String) : Option String :=
  let name := trim (beforeFirst '<' name.toList)
  types.find? fun t =>
    if name.contains '.' then sameIgnoringCase t.toList name else simpleName t.toList = name

/-- The types among some that a declaration descends from, each once. -/
def ancestorHitsAt (types : List String) (resolver : Option Resolver) (decl : Node) : List Hit :=
  ((ancestorsOf resolver decl).filterMap (ancestorNamed? types)).eraseDups.map fun t =>
    { line := decl.line, subject := declaredName decl, evidence := t }

/-- Whether nodes of a kind declare a type. -/
def declaresType : Kind → Bool
  | .classDecl | .interfaceDecl => true
  | _ => false

/-- The declarations of a unit that descend from one of some types. -/
def ancestorHits (types : List String) (u : LoadedUnit) : List Hit :=
  (u.unit.root.descendants.filter fun n => declaresType n.kind).flatMap
    (ancestorHitsAt types u.resolver)

end PlatformAudit.Detect
