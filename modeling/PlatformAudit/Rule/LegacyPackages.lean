import PlatformAudit.Catalog.Tables
import PlatformAudit.Rule.Basic

/-!
# Banned packages

The packages that the projects refer to are looked up in a table of packages that
have a successor. This rule does not look at units at all.
-/

namespace PlatformAudit.LegacyPackages

open Code Catalog

/-- What the findings have in common. -/
def info : RuleInfo where
  id := "DEP001"
  name := "Package without a cross-platform release"
  category := .dependencies
  severity := .high

/-- The finding of a package, by the first entry that covers it. -/
def finding? (banned : List BannedPackage) (p : Package) : Option Finding :=
  (banned.find? (·.covers p.name)).map fun b =>
    let version := (p.version.map (" " ++ ·)).getD ""
    info.finding p.declaredIn p.line
      ("Package " ++ p.name ++ version ++ " targets the Windows-only framework")
      ("Replace " ++ p.name ++ " with " ++ b.replacement ++ ".")

/-- The rule. -/
def rule (banned : List BannedPackage) : Rule where
  id := info.id
  name := info.name
  category := info.category
  analyze model cancelled :=
    if cancelled then (.cancelled, true)
    else (.done { findings := model.packages.filterMap (finding? banned) }, false)

end PlatformAudit.LegacyPackages
