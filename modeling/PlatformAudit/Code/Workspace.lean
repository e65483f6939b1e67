import PlatformAudit.Code.Symbols
import PlatformAudit.Text.Quoted

/-!
# What is analysed

An analysis takes its units from a **source**: it asks for the paths of all units
and then loads them one by one. Both may fail. The failure of the list is fatal,
the failure of one unit is not. Loading may also be the moment at which the caller
gives up, so an attempt to load tells whether it cancels the run; a source may
answer differently from one attempt to the next, and is therefore told how many
there were before.

A **workspace** is a source held in memory.
-/

namespace PlatformAudit.Code

/-- A directive beside the tree of a unit, such as a condition on its compilation. -/
structure Directive where
  line : UInt32
  text : String
  deriving DecidableEq

/-- A parsed file. -/
structure SourceUnit where
  path : String
  root : Node
  directives : List Directive := []

/-- A unit with what is known about its names. -/
structure LoadedUnit where
  unit : SourceUnit
  resolver : Option Resolver := none

/-- A short description of a loaded unit. -/
def LoadedUnit.describe (u : LoadedUnit) : String :=
  "LoadedUnit \x7b path: " ++ Text.quoted u.unit.path ++ ", has_resolver: " ++
    (if u.resolver.isSome then "true" else "false") ++ " \x7d"

/-- A package that a project refers to. -/
structure Package where
  name : String
  version : Option String := none
  declaredIn : String
  line : UInt32 := 1
  deriving DecidableEq

/-- Why a source does not give what it is asked for. -/
inductive SourceError where
  | unavailable (reason : String)
  | unreadable (path reason : String)
  deriving DecidableEq

/-- The message of an error. -/
def SourceError.message : SourceError → String
  | .unavailable reason => "source model unavailable: " ++ reason
  | .unreadable path reason => "failed to read " ++ path ++ ": " ++ reason

/-- What comes of the attempt to load a unit. -/
structure LoadAttempt where
  result : Except SourceError LoadedUnit
  /-- The caller gave up meanwhile. -/
  cancels : Bool := false

/-- Where an analysis takes its units from. -/
structure Source where
  sourceId : String
  /-- The paths of all units. -/
  enumerate : Except SourceError (List String)
  /-- Loads the unit at a path, after a number of earlier attempts. -/
  load : (attempts : Nat) → (path : String) → LoadAttempt
  packages : List Package := []

/-- All that could be loaded. -/
structure LoadedModel where
  sourceId : String
  units : List LoadedUnit
  packages : List Package

/-! ### Workspaces -/

/-- A unit held in memory. -/
structure StoredUnit where
  path : String
  root : Node
  directives : List Directive := []
  symbols : Option SymbolTables := none
  /-- Why the unit cannot be loaded, if it cannot. -/
  unreadable : Option String := none

/-- A source held in memory. -/
structure Workspace where
  sourceId : String
  units : List StoredUnit := []
  packages : List Package := []
  /-- Why the units cannot be listed, if they cannot. -/
  unavailable : Option String := none

namespace Workspace

/-- The paths of the units, in order. -/
def enumerate (w : Workspace) : Except SourceError (List String) :=
  match w.unavailable with
  | some reason => .error (.unavailable reason)
  | none => .ok (w.units.map (·.path))

/-- Loads the first unit with a path. -/
def load (w : Workspace) (path : String) : Except SourceError LoadedUnit :=
  match w.units.find? (·.path = path) with
  | none => .error (.unreadable path "unit not present in model")
  | some u =>
    match u.unreadable with
    | some reason => .error (.unreadable u.path reason)
    | none =>
      .ok { unit := { path := u.path, root := u.root, directives := u.directives }
            resolver := u.symbols.map (·.resolver) }

/-- A workspace as a source. -/
def source (w : Workspace) : Source where
  sourceId := w.sourceId
  enumerate := w.enumerate
  load _ path := { result := w.load path }
  packages := w.packages

end Workspace

end PlatformAudit.Code
