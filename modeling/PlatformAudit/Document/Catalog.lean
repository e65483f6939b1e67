import PlatformAudit.Catalog.Tables
import PlatformAudit.Document.Settings

/-!
# The tables of the rule catalogue in documents

A document replaces the tables that it names and leaves the others at their
default.
-/

namespace PlatformAudit

open Json

namespace Detect.TypeRef

/-- Reads a reference to a type. -/
def decoder : Decoder TypeRef :=
  Record.decoder "TypeRef" <|
    Record.build TypeRef.mk
      |>.and (.required "namespace" Decoder.text)
      |>.and (.required "name" Decoder.text)

/-- Writes a reference to a type. -/
def encode (t : TypeRef) : Value :=
  .record [("namespace", .text t.containing), ("name", .text t.name)]

end Detect.TypeRef

namespace Catalog

namespace BannedPackage

/-- Reads a banned package. -/
def decoder : Decoder BannedPackage :=
  Record.decoder "BannedPackage" <|
    Record.build BannedPackage.mk
      |>.and (.required "name" Decoder.text)
      |>.and (.required "replacement" Decoder.text)

/-- Writes a banned package. -/
def encode (b : BannedPackage) : Value :=
  .record [("name", .text b.name), ("replacement", .text b.replacement)]

end BannedPackage

namespace LiteralTexts

/-- The patterns for literals as a record. -/
def record : Record LiteralTexts :=
  let d : LiteralTexts := {}
  Record.build LiteralTexts.mk
    |>.and (.withDefault "absolute_path" Decoder.text d.absolutePath)
    |>.and (.withDefault "unc_path" Decoder.text d.sharePath)
    |>.and (.withDefault "relative_backslash_path" Decoder.text d.relativeBackslashPath)
    |>.and (.withDefault "password_in_connection_string" Decoder.text d.embeddedPassword)
    |>.and (.withDefault "integrated_security" Decoder.text d.integratedSecurity)
    |>.and (.withDefault "safe_paths" Decoder.text.list d.safePaths)

/-- Reads the patterns for literals. -/
def decoder : Decoder LiteralTexts :=
  record.decoder "LiteralPatterns"

/-- Writes the patterns for literals. -/
def encode (t : LiteralTexts) : Value :=
  .record
    [("absolute_path", .text t.absolutePath), ("unc_path", .text t.sharePath),
     ("relative_backslash_path", .text t.relativeBackslashPath),
     ("password_in_connection_string", .text t.embeddedPassword),
     ("integrated_security", .text t.integratedSecurity),
     ("safe_paths", encodeTexts t.safePaths)]

end LiteralTexts

namespace Tables

/-- The tables as a record. -/
def record : Record Tables :=
  let d : Tables := {}
  let texts := Decoder.text.list
  let types := Detect.TypeRef.decoder.list
  Record.build Tables.mk
    |>.and (.withDefault "windows_namespaces" texts d.windowsNamespaces)
    |>.and (.withDefault "legacy_namespaces" texts d.legacyNamespaces)
    |>.and (.withDefault "pinvoke_attributes" texts d.interopAttributes)
    |>.and (.withDefault "native_libraries" texts d.nativeLibraries)
    |>.and (.withDefault "windows_types" types d.windowsTypes)
    |>.and (.withDefault "identity_types" types d.identityTypes)
    |>.and (.withDefault "legacy_config_types" types d.legacyConfigTypes)
    |>.and (.withDefault "directive_tokens" texts d.directiveTokens)
    |>.and (.withDefault "platform_base_types" texts d.platformBaseTypes)
    |>.and (.withDefault "com_attributes" texts d.comAttributes)
    |>.and (.withDefault "legacy_service_attributes" texts d.legacyServiceAttributes)
    |>.and (.withDefault "windows_env_vars" texts d.environmentVariables)
    |>.and (.withDefault "banned_packages" BannedPackage.decoder.list d.bannedPackages)
    |>.and (.withDefault "in_memory_session_markers" texts d.inMemorySessionMarkers)
    |>.and (.withDefault "persistent_store_markers" texts d.persistentStoreMarkers)
    |>.and (.withDefault "literals" LiteralTexts.decoder d.literals)

/-- Reads the tables. -/
def decoder : Decoder Tables :=
  record.decoder "CatalogConfig"

/-- Writes the tables. -/
def encode (t : Tables) : Value :=
  let types (ts : List Detect.TypeRef) : Value := .list (ts.map (·.encode))
  .record
    [("windows_namespaces", encodeTexts t.windowsNamespaces),
     ("legacy_namespaces", encodeTexts t.legacyNamespaces),
     ("pinvoke_attributes", encodeTexts t.interopAttributes),
     ("native_libraries", encodeTexts t.nativeLibraries),
     ("windows_types", types t.windowsTypes),
     ("identity_types", types t.identityTypes),
     ("legacy_config_types", types t.legacyConfigTypes),
     ("directive_tokens", encodeTexts t.directiveTokens),
     ("platform_base_types", encodeTexts t.platformBaseTypes),
     ("com_attributes", encodeTexts t.comAttributes),
     ("legacy_service_attributes", encodeTexts t.legacyServiceAttributes),
     ("windows_env_vars", encodeTexts t.environmentVariables),
     ("banned_packages", .list (t.bannedPackages.map (·.encode))),
     ("in_memory_session_markers", encodeTexts t.inMemorySessionMarkers),
     ("persistent_store_markers", encodeTexts t.persistentStoreMarkers),
     ("literals", t.literals.encode)]

end Tables

end Catalog

end PlatformAudit
