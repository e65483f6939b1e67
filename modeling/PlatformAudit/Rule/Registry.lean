import PlatformAudit.Catalog.Tables
import PlatformAudit.Rule.Detection
import PlatformAudit.Rule.LegacyPackages
import PlatformAudit.Rule.NativeInterop
import PlatformAudit.Rule.SessionStore

/-!
# The built-in rules

Eighteen rules, in the order in which they run and report. Only the rules about
string literals can fail to be set up, when one of their patterns is none.
-/

namespace PlatformAudit

open Catalog Detect

/-- Rules in the order in which they run. -/
abbrev Registry := List Rule

namespace Registry

/-- The rules with one of some ids, without regard to case. -/
def select (r : Registry) (ids : List String) : Registry :=
  r.filter fun rule => ids.any fun id => Text.sameIgnoringCase id.toList rule.id.toList

end Registry

namespace Builtin

/-- A rule about platform interfaces. -/
def platformInfo (id name : String) (severity : Severity) : RuleInfo :=
  { id, name, category := .platformApi, severity }

/-- A rule about paths. -/
def filesystemInfo (id name : String) (severity : Severity) : RuleInfo :=
  { id, name, category := .filesystem, severity }

/-- A rule about identities and credentials. -/
def securityInfo (id name : String) (severity : Severity) : RuleInfo :=
  { id, name, category := .security, severity }

/-- A rule about what a project builds upon. -/
def dependencyInfo (id name : String) (severity : Severity) : RuleInfo :=
  { id, name, category := .dependencies, severity }

/-! ### Platform interfaces -/

/-- Imports of and paths into namespaces that exist on Windows only. -/
def windowsNamespace (t : Tables) : DetectionRule where
  info := platformInfo "WIN001" "Windows-only namespace" .high
  detector := .namespaces t.windowsNamespaces
  message := "Reference to Windows-only namespace '\x7bsubject\x7d' (\x7bevidence\x7d)"
  recommendation :=
    "Isolate '\x7bevidence\x7d' behind an abstraction with a cross-platform implementation, or " ++
      "guard it with OperatingSystem.IsWindows()."

/-- Uses of types that exist on Windows only. -/
def windowsType (t : Tables) : DetectionRule where
  info := platformInfo "WIN003" "Windows-only type" .high
  detector := .types t.windowsTypes
  message := "Use of Windows-only type \x7bevidence\x7d in '\x7bsubject\x7d'"
  recommendation :=
    "Replace \x7bevidence\x7d with a portable alternative (configuration files, structured " ++
      "logging, cross-platform metrics)."

/-- Code that is compiled for some platforms only. -/
def platformDirective (t : Tables) : DetectionRule where
  info := platformInfo "WIN004" "Windows conditional compilation" .medium
  detector := .directives t.directiveTokens
  message := "Conditional compilation on platform symbol \x7bevidence\x7d: \x7bsubject\x7d"
  recommendation :=
    "Prefer runtime checks (OperatingSystem.Is*) or target-framework neutral code over the " ++
      "\x7bevidence\x7d symbol."

/-- Types that derive from a base that exists on Windows only. -/
def platformBaseType (t : Tables) : DetectionRule where
  info := platformInfo "WIN005" "Derives from Windows-only base type" .high
  detector := .ancestors t.platformBaseTypes
  message := "Type '\x7bsubject\x7d' derives from Windows-only \x7bevidence\x7d"
  recommendation :=
    "Rehost '\x7bsubject\x7d' on a cross-platform base (e.g. BackgroundService, ASP.NET Core " ++
      "middleware) instead of \x7bevidence\x7d."

/-- Attributes for component interop, which exists on Windows only. -/
def comInterop (t : Tables) : DetectionRule where
  info := platformInfo "WIN006" "COM interop attribute" .medium
  detector := .attributes t.comAttributes
  message := "COM interop attribute [\x7bevidence\x7d] on '\x7bsubject\x7d'"
  recommendation :=
    "COM is only available on Windows; remove [\x7bevidence\x7d] or provide a managed " ++
      "implementation for other platforms."

/-! ### Paths -/

/-- Literals that are paths with a drive letter. -/
def absolutePath (t : Tables) : Except String DetectionRule := do
  let patterns ← LiteralPatterns.compile [("drive-letter path", t.literals.absolutePath)]
    t.literals.safePaths
  return {
    info := filesystemInfo "FS001" "Hardcoded absolute path" .high
    detector := .literals patterns
    message := "Hardcoded absolute path \"\x7bsubject\x7d\""
    recommendation :=
      "Build the path from configuration or a well-known base directory using Path.Combine." }

/-- Literals that are paths of a network share. -/
def sharePath (t : Tables) : Except String DetectionRule := do
  let patterns ← LiteralPatterns.compile [("UNC share", t.literals.sharePath)]
    t.literals.safePaths
  return {
    info := filesystemInfo "FS002" "Hardcoded UNC path" .high
    detector := .literals patterns
    message := "Hardcoded UNC path \"\x7bsubject\x7d\""
    recommendation :=
      "Move the share location into configuration; UNC paths do not resolve outside Windows." }

/-- The pattern of an environment variable between percent signs. -/
def environmentPattern (names : List String) : String :=
  "(?i)%(" ++ String.intercalate "|" (names.map fun n => String.ofList (Pattern.quote n.toList)) ++
    ")%"

/-- Literals that name an environment variable between percent signs. -/
def environmentToken (t : Tables) : Except String DetectionRule := do
  let patterns ← LiteralPatterns.compile
    [("Windows environment token", environmentPattern t.environmentVariables)]
    t.literals.safePaths
  return {
    info := filesystemInfo "FS003" "Windows environment variable token" .medium
    detector := .literals patterns
    message := "Windows-style environment variable token in \"\x7bsubject\x7d\""
    recommendation :=
      "Use Environment.GetFolderPath or Environment.GetEnvironmentVariable instead of %VAR% " ++
        "expansion." }

/-- Literals that are relative paths with backslashes. -/
def backslashSeparator (t : Tables) : Except String DetectionRule := do
  let patterns ← LiteralPatterns.compile [("backslash separator", t.literals.relativeBackslashPath)]
    t.literals.safePaths
  return {
    info := filesystemInfo "FS004" "Backslash path separator" .low
    detector := .literals patterns
    message := "Path \"\x7bsubject\x7d\" uses '\\' as a separator"
    recommendation := "Use Path.Combine or '/' so the path resolves on every platform." }

/-! ### Identities and credentials -/

/-- Uses of types for identities of the operating system. -/
def windowsIdentity (t : Tables) : DetectionRule where
  info := securityInfo "SEC001" "Windows identity or impersonation" .high
  detector := .types t.identityTypes
  message := "Windows identity API \x7bevidence\x7d used in '\x7bsubject\x7d'"
  recommendation :=
    "Use claims-based identity (ClaimsPrincipal) and a platform-neutral authentication handler " ++
      "instead of \x7bevidence\x7d."

/-- Connection strings that contain a password. -/
def embeddedPassword (t : Tables) : Except String DetectionRule := do
  let patterns ← LiteralPatterns.compile [("password key", t.literals.embeddedPassword)] []
  return {
    info := securityInfo "SEC002" "Password embedded in connection string" .high
    detector := .literals patterns
    message := "Connection string literal contains an embedded password"
    recommendation :=
      "Load credentials from a secret store or environment configuration, never from source." }

/-- Connection strings that rely on an identity of the operating system. -/
def integratedSecurity (t : Tables) : Except String DetectionRule := do
  let patterns ← LiteralPatterns.compile [("integrated security", t.literals.integratedSecurity)] []
  return {
    info := securityInfo "SEC003" "Windows integrated authentication in connection string" .medium
    detector := .literals patterns
    message := "Connection string relies on Windows integrated authentication"
    recommendation :=
      "Integrated Security requires a Windows domain identity; configure SQL, token or " ++
        "managed-identity authentication for other hosts." }

/-! ### Configuration and dependencies -/

/-- Uses of types of the former configuration system. -/
def legacyConfiguration (t : Tables) : DetectionRule where
  info :=
    { id := "CFG001", name := "Legacy configuration API", category := .configuration
      severity := .medium }
  detector := .types t.legacyConfigTypes
  message := "Legacy configuration API \x7bevidence\x7d used in '\x7bsubject\x7d'"
  recommendation :=
    "Bind settings through Microsoft.Extensions.Configuration (IConfiguration, IOptions<T>) " ++
      "instead of \x7bevidence\x7d."

/-- Imports of and paths into namespaces that have no successor. -/
def legacyNamespace (t : Tables) : DetectionRule where
  info := dependencyInfo "DEP002" "Legacy framework namespace" .medium
  detector := .namespaces t.legacyNamespaces
  message := "Reference to legacy framework namespace '\x7bsubject\x7d' (\x7bevidence\x7d)"
  recommendation :=
    "'\x7bevidence\x7d' is not available on modern .NET; migrate to its ASP.NET Core or gRPC " ++
      "counterpart."

/-- Attributes of services of the former framework. -/
def legacyService (t : Tables) : DetectionRule where
  info := dependencyInfo "DEP003" "Legacy service contract attribute" .medium
  detector := .attributes t.legacyServiceAttributes
  message := "Legacy service attribute [\x7bevidence\x7d] on '\x7bsubject\x7d'"
  recommendation :=
    "Expose '\x7bsubject\x7d' through ASP.NET Core controllers, minimal APIs or gRPC instead of " ++
      "[\x7bevidence\x7d]."

end Builtin

open Builtin in
/-- The built-in rules for some tables, or the first text that is no pattern. -/
def Registry.builtin (t : Tables) : Except String Registry := do
  let absolutePath ← absolutePath t
  let sharePath ← sharePath t
  let environmentToken ← environmentToken t
  let backslashSeparator ← backslashSeparator t
  let embeddedPassword ← embeddedPassword t
  let integratedSecurity ← integratedSecurity t
  return [
    (windowsNamespace t).rule,
    NativeInterop.rule t.interopAttributes t.nativeLibraries,
    (windowsType t).rule,
    (platformDirective t).rule,
    (platformBaseType t).rule,
    (comInterop t).rule,
    absolutePath.rule,
    sharePath.rule,
    environmentToken.rule,
    backslashSeparator.rule,
    (windowsIdentity t).rule,
    embeddedPassword.rule,
    integratedSecurity.rule,
    (legacyConfiguration t).rule,
    SessionStore.rule t.inMemorySessionMarkers t.persistentStoreMarkers,
    LegacyPackages.rule t.bannedPackages,
    (legacyNamespace t).rule,
    (legacyService t).rule]

end PlatformAudit
