import PlatformAudit.Detect.Hit

/-!
# Attributes on declarations

An attribute may be written with or without its namespace and with or without the
word `Attribute` at the end of its name; all these name the same attribute.
-/

namespace PlatformAudit.Detect

open Text Code

/-- The name of an attribute without namespace and final word. -/
def attributeStem (name : List Char) : List Char :=
  let name := simpleName name
  match dropFinal? "Attribute".toList name with
  | some [] => name
  | some stem => stem
  | none => name

/-- The first of some names that refers to the same attribute as the written one. -/
def attributeNamed? (written : String) (names : List String) : Option String :=
  names.find? fun n =>
    sameIgnoringCase (attributeStem n.toList) (attributeStem written.toList)

/-- The attributes in a tree, each with the node that it stands on, in the order of those
nodes. -/
def attributesIn (root : Node) : List (Node × Node) :=
  root.descendants.flatMap fun owner => (owner.childrenOf .attributeUse).map fun a => (owner, a)

/-- The hit of an attribute on a node. -/
def attributeHit? (names : List String) (owner attr : Node) : Option Hit :=
  (attributeNamed? attr.label names).map fun name =>
    { line := attr.line
      subject := if owner.label.isEmpty then attr.label else owner.label
      evidence := name }

/-- The attributes of a unit with one of some names. -/
def attributeHits (names : List String) (u : LoadedUnit) : List Hit :=
  (attributesIn u.unit.root).filterMap fun (owner, attr) => attributeHit? names owner attr

end PlatformAudit.Detect
