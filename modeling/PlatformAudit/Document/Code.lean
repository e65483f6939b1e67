import PlatformAudit.Code.Workspace
import PlatformAudit.Json.Key
import PlatformAudit.Json.Record

/-!
# Source code in documents

How trees, units, symbol tables and workspaces are read and written. A tree is
nested as deep in its document as two levels for each of its own, so the nesting
limit of documents bounds the depth of trees.
-/

namespace PlatformAudit.Code

open Json

namespace Kind

/-- The name of a kind. -/
def name : Kind → String
  | compilationUnit => "compilation_unit"
  | namespaceDecl => "namespace"
  | importDecl => "using"
  | classDecl => "class_decl"
  | interfaceDecl => "interface_decl"
  | methodDecl => "method_decl"
  | baseType => "base_type"
  | attributeUse => "attribute"
  | qualifiedName => "qualified_name"
  | identifier => "identifier"
  | memberAccess => "member_access"
  | invocation => "invocation"
  | objectCreation => "object_creation"
  | stringLiteral => "string_literal"
  | other => "other"

/-- All kinds. -/
def all : List Kind :=
  [compilationUnit, namespaceDecl, importDecl, classDecl, interfaceDecl, methodDecl, baseType,
   attributeUse, qualifiedName, identifier, memberAccess, invocation, objectCreation,
   stringLiteral, other]

/-- The kinds by name. -/
def known : List (String × Kind) :=
  all.map fun k => (k.name, k)

/-- The kind that a name stands for; any unknown name stands for `other`. -/
def ofName (name : String) : Kind :=
  (Decoder.named? known name).getD other

/-- Reads a kind. -/
def decoder : Decoder Kind :=
  Decoder.variant known (some other)

/-- Writes a kind. -/
def encode (k : Kind) : Value :=
  .text k.name

end Kind

/-! ### Trees -/

namespace Node

/-- A node as a record, with a way to read its children. -/
def record (child : Decoder Node) : Record Node :=
  Record.build Node.mk
    |>.and (.required "kind" Kind.decoder)
    |>.and (.optional "id" Decoder.word32)
    |>.and (.optional "text" Decoder.text)
    |>.and (.withDefault "line" Decoder.word32 1)
    |>.and (.withDefault "children" child.list [])

/-- Reads a tree of at most this many levels. -/
def decoderWithin : (levels : Nat) → Decoder Node
  | 0, _, _ => malformed
  | levels + 1, room, v => (record (decoderWithin levels)).decoder "SyntaxNode" room v

/-- Reads a tree. There is no room for more levels than a document may have. -/
def decoder : Decoder Node :=
  decoderWithin nestingLimit

mutual

/-- Writes a tree. -/
def encode : Node → Value
  | ⟨kind, id, text, line, children⟩ =>
    .record <|
      [("kind", kind.encode)] ++ Value.fieldIf "id" (fun i : UInt32 => .nat i.toNat) id ++
        Value.fieldIf "text" .text text ++ [("line", .nat line.toNat)] ++
        (if children.isEmpty then [] else [("children", .list (encodeAll children))])

/-- Writes trees. -/
def encodeAll : List Node → List Value
  | [] => []
  | n :: ns => n.encode :: encodeAll ns

end

end Node

/-! ### Units -/

namespace Directive

/-- Reads a directive. -/
def decoder : Decoder Directive :=
  Record.decoder "Directive" <|
    Record.build Directive.mk
      |>.and (.required "line" Decoder.word32)
      |>.and (.required "text" Decoder.text)

/-- Writes a directive. -/
def encode (d : Directive) : Value :=
  .record [("line", .nat d.line.toNat), ("text", .text d.text)]

end Directive

namespace SourceUnit

/-- Reads a unit. -/
def decoder : Decoder SourceUnit :=
  Record.decoder "CompilationUnit" <|
    Record.build SourceUnit.mk
      |>.and (.required "path" Decoder.text)
      |>.and (.required "root" Node.decoder)
      |>.and (.withDefault "directives" Directive.decoder.list [])

/-- Writes a unit. -/
def encode (u : SourceUnit) : Value :=
  .record
    [("path", .text u.path), ("root", u.root.encode),
     ("directives", .list (u.directives.map (·.encode)))]

end SourceUnit

/-! ### Symbols -/

namespace Symbol

/-- Reads a symbol. -/
def decoder : Decoder Symbol :=
  Record.decoder "SymbolInfo" <|
    Record.build Symbol.mk
      |>.and (.required "declared_type" Decoder.text)
      |>.and (.required "containing_namespace" Decoder.text)

/-- Writes a symbol. -/
def encode (s : Symbol) : Value :=
  .record
    [("declared_type", .text s.declaredType),
     ("containing_namespace", .text s.containingNamespace)]

end Symbol

namespace SymbolTables

/-- Reads symbol tables. -/
def decoder : Decoder SymbolTables :=
  Record.decoder "MapResolver" <|
    Record.build SymbolTables.mk
      |>.and (.withDefault "nodes" (Decoder.table Key.word32 Symbol.decoder) .empty)
      |>.and (.withDefault "bases" (Decoder.table Literal.text Decoder.text) .empty)
      |>.and (.withDefault "interfaces" (Decoder.table Literal.text Decoder.text.list) .empty)

/-- Writes symbol tables. -/
def encode (t : SymbolTables) : Value :=
  .record
    [("nodes",
      .table (fun i : UInt32 => String.ofList (Decimal.text i.toNat)) Symbol.encode t.nodes),
     ("bases", .table id .text t.bases),
     ("interfaces", .table id (fun names => .list (names.map .text)) t.interfaces)]

end SymbolTables

/-! ### Workspaces -/

namespace Package

/-- Reads a reference to a package. -/
def decoder : Decoder Package :=
  Record.decoder "PackageReference" <|
    Record.build Package.mk
      |>.and (.required "name" Decoder.text)
      |>.and (.optional "version" Decoder.text)
      |>.and (.required "declared_in" Decoder.text)
      |>.and (.withDefault "line" Decoder.word32 1)

/-- Writes a reference to a package. -/
def encode (p : Package) : Value :=
  .record
    [("name", .text p.name), ("version", .optional .text p.version),
     ("declared_in", .text p.declaredIn), ("line", .nat p.line.toNat)]

end Package

namespace StoredUnit

/-- Reads a unit of a workspace. -/
def decoder : Decoder StoredUnit :=
  Record.decoder "MemoryUnit" <|
    Record.build StoredUnit.mk
      |>.and (.required "path" Decoder.text)
      |>.and (.required "root" Node.decoder)
      |>.and (.withDefault "directives" Directive.decoder.list [])
      |>.and (.optional "symbols" SymbolTables.decoder)
      |>.and (.optional "unreadable" Decoder.text)

/-- Writes a unit of a workspace. -/
def encode (u : StoredUnit) : Value :=
  .record <|
    [("path", .text u.path), ("root", u.root.encode),
     ("directives", .list (u.directives.map (·.encode)))] ++
      Value.fieldIf "symbols" SymbolTables.encode u.symbols ++
      Value.fieldIf "unreadable" .text u.unreadable

end StoredUnit

namespace Workspace

/-- Reads a workspace. -/
def decoder : Decoder Workspace :=
  Record.decoder "InMemorySourceModel" <|
    Record.build Workspace.mk
      |>.and (.required "source_id" Decoder.text)
      |>.and (.withDefault "units" StoredUnit.decoder.list [])
      |>.and (.withDefault "packages" Package.decoder.list [])
      |>.and (.optional "unavailable" Decoder.text)

/-- Writes a workspace. -/
def encode (w : Workspace) : Value :=
  .record <|
    [("source_id", .text w.sourceId), ("units", .list (w.units.map (·.encode))),
     ("packages", .list (w.packages.map (·.encode)))] ++
      Value.fieldIf "unavailable" .text w.unavailable

end Workspace

end PlatformAudit.Code
