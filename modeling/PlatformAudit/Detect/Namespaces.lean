import PlatformAudit.Detect.Hit
import PlatformAudit.Text.Bytes

/-!
# References to namespaces

An import or a qualified name refers to a namespace if the namespace's segments
are the first segments of its path, without regard to case. The parts of a name
that is found are the same reference and are not reported again.
-/

namespace PlatformAudit.Detect

open Text Code

/-- Whether a path lies in a namespace. As many bytes as the namespace has are cut off the path and
compared; there is no answer if the cut goes through a character. -/
def liesIn? (path containing : List Char) : Option Bool :=
  let path := trim path
  let length := byteLength containing
  if byteLength path < length || !isBoundary path length then some false
  else do
    let (start, rest) ← cutAfter? length path
    return sameIgnoringCase start containing && (rest.isEmpty || rest.head? = some '.')

/-- Whether a path lies in a namespace. -/
def liesIn (path containing : List Char) : Bool :=
  (liesIn? path containing).getD false

/-- The path that an import names: what follows an alias, without the word `static`. -/
def importedPath (text : List Char) : List Char :=
  let target := trim (afterLast '=' (trim text))
  trim ((dropStart? "static ".toList target).getD target)

/-- The path of a node that may refer to a namespace. -/
def namespacePath? (node : Node) : Option (List Char) :=
  match node.kind with
  | .importDecl => some (importedPath node.label.toList)
  | .qualifiedName => some (trim node.label.toList)
  | _ => none

/-- The reference of a node to one of some namespaces, the first that fits. -/
def namespaceHit? (namespaces : List String) (node : Node) : Option Hit := do
  let path ← namespacePath? node
  let containing ← namespaces.find? fun n => liesIn path n.toList
  return { line := node.line, subject := String.ofList path, evidence := containing }

/-- The references of a unit to some namespaces. -/
def namespaceHits (namespaces : List String) (u : LoadedUnit) : List Hit :=
  collect (namespaceHit? namespaces) u.unit.root

end PlatformAudit.Detect
