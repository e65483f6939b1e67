import PlatformAudit.Document.Catalog
import PlatformAudit.Proofs.Json.Overriding

/-!
# Documents of settings

A document of settings or of tables overrides what it names and leaves the rest at its default:
`PlatformAudit.partial_documents_override`. The fields of each type are listed once, with their
names, their decoders and what they are in a value of the type
(`PlatformAudit.Settings.EachField` and its likes), and both what a document must be and what
comes of it are said with the same list.
-/

namespace PlatformAudit

open Json

/-! ### Filters -/

namespace FilterSettings

/-- Something holds of each field of the settings of a filter. -/
structure EachField
    (P : {α : Type} → String → Decoder α → (FilterSettings → α) → Prop) : Prop where
  minSeverity : P "min_severity" Severity.decoder (·.minSeverity)
  excludePatterns : P "exclude_patterns" Decoder.text.list (·.excludePatterns)

/-- Each field is there at most once and with a valid value. -/
def ProperFields (fields : List (String × Value)) : Prop :=
  EachField fun name d _ => Proper fields name d.Accepts

/-- Each field has the value of the document or the default. -/
def OverriddenBy (fields : List (String × Value)) (s : FilterSettings) : Prop :=
  EachField fun name d field => Gives fields name d (field {}) (field s)

theorem shallow_decoder : decoder.Shallow 2 := by
  have hrecord : record.Shallow 1 :=
    ⟨⟨trivial, Decoder.shallow_variant _ _⟩, Decoder.shallow_text.list⟩
  exact hrecord.decoder "FilterConfig"

theorem exists_overriddenBy {v : Value} {fields : List (String × Value)} (hv : v.HasFields fields)
    (h : ProperFields fields) :
    ∃ s, decoder nestingLimit v = .ok s ∧ OverriddenBy fields s := by
  obtain ⟨minSeverity, hseverity, hseverity'⟩ :=
    h.minSeverity.exists_gives ((Decoder.shallow_variant _ _).mono (by decide)) _
  obtain ⟨excludePatterns, hpatterns, hpatterns'⟩ :=
    h.excludePatterns.exists_gives (Decoder.shallow_text.list.mono (by decide)) _
  have hrecord : record.Overridden (nestingLimit - 1) fields { minSeverity, excludePatterns } :=
    .field (.field (.build _) hseverity') hpatterns'
  exact ⟨_, hrecord.decoder (by decide) "FilterConfig" hv, hseverity, hpatterns⟩

end FilterSettings

/-! ### Settings of a run -/

namespace Settings

/-- Something holds of each field of the settings of a run but the filter. -/
structure EachField (P : {α : Type} → String → Decoder α → (Settings → α) → Prop) : Prop where
  mode : P "mode" Mode.decoder (·.mode)
  unitAdvisories : P "unit_advisories" Decoder.bool (·.unitAdvisories)

/-- **A proper document of settings**: each field is there at most once and with a valid value, and
so are the fields of the filter. -/
structure ProperFields (fields : List (String × Value)) : Prop where
  each : EachField fun name d _ => Proper fields name d.Accepts
  filter : Proper fields "filter"
    (IsRecord FilterSettings.ProperFields FilterSettings.decoder)

/-- **Settings that a document overrides**: each field has the value of the document or the
default, and so does each field of the filter. -/
structure OverriddenBy (fields : List (String × Value)) (s : Settings) : Prop where
  each : EachField fun name d field => Gives fields name d (field {}) (field s)
  filter : Gives fields "filter" FilterSettings.decoder {} s.filter
  inFilter : ∀ v inner, ("filter", v) ∈ fields → v.HasFields inner →
    FilterSettings.OverriddenBy inner s.filter

theorem exists_overriddenBy {v : Value} {fields : List (String × Value)} (hv : v.HasFields fields)
    (h : ProperFields fields) :
    ∃ s, decoder nestingLimit v = .ok s ∧ OverriddenBy fields s := by
  have hfilter : Proper fields "filter" FilterSettings.decoder.Accepts :=
    h.filter.imp fun _ hv => hv.accepts fun _ _ => FilterSettings.exists_overriddenBy
  obtain ⟨mode, hmode, hmode'⟩ :=
    h.each.mode.exists_gives ((Decoder.shallow_variant _ _).mono (by decide)) _
  obtain ⟨unitAdvisories, hunits, hunits'⟩ :=
    h.each.unitAdvisories.exists_gives (Decoder.shallow_bool.mono (by decide)) _
  obtain ⟨filter, hfilter, hfilter'⟩ :=
    hfilter.exists_gives (FilterSettings.shallow_decoder.mono (by decide)) {}
  have hrecord : record.Overridden (nestingLimit - 1) fields { mode, unitAdvisories, filter } :=
    .field (.field (.field (.build _) hmode') hunits') hfilter'
  refine ⟨_, hrecord.decoder (by decide) "EngineConfig" hv, ⟨hmode, hunits⟩, hfilter, ?_⟩
  intro v inner hmem hinner
  exact (h.filter.valid v hmem).overrides (fun _ _ => FilterSettings.exists_overriddenBy) hinner
    (hfilter.named v hmem)

end Settings

/-! ### Tables -/

theorem Detect.TypeRef.shallow_decoder : decoder.Shallow 1 := by
  refine Record.Shallow.decoder ?_ "TypeRef"
  exact ⟨⟨trivial, Decoder.shallow_text⟩, Decoder.shallow_text⟩

namespace Catalog

theorem BannedPackage.shallow_decoder : decoder.Shallow 1 := by
  refine Record.Shallow.decoder ?_ "BannedPackage"
  exact ⟨⟨trivial, Decoder.shallow_text⟩, Decoder.shallow_text⟩

namespace LiteralTexts

/-- Something holds of each of the patterns for literals. -/
structure EachField
    (P : {α : Type} → String → Decoder α → (LiteralTexts → α) → Prop) : Prop where
  absolutePath : P "absolute_path" Decoder.text (·.absolutePath)
  sharePath : P "unc_path" Decoder.text (·.sharePath)
  relativeBackslashPath : P "relative_backslash_path" Decoder.text (·.relativeBackslashPath)
  embeddedPassword : P "password_in_connection_string" Decoder.text (·.embeddedPassword)
  integratedSecurity : P "integrated_security" Decoder.text (·.integratedSecurity)
  safePaths : P "safe_paths" Decoder.text.list (·.safePaths)

/-- Each field is there at most once and with a valid value. -/
def ProperFields (fields : List (String × Value)) : Prop :=
  EachField fun name d _ => Proper fields name d.Accepts

/-- Each field has the value of the document or the default. -/
def OverriddenBy (fields : List (String × Value)) (t : LiteralTexts) : Prop :=
  EachField fun name d field => Gives fields name d (field {}) (field t)

theorem shallow_decoder : decoder.Shallow 2 := by
  have htext : Decoder.text.Shallow 1 := Decoder.shallow_text.mono (Nat.zero_le 1)
  have hrecord : record.Shallow 1 :=
    ⟨⟨⟨⟨⟨⟨trivial, htext⟩, htext⟩, htext⟩, htext⟩, htext⟩, Decoder.shallow_text.list⟩
  exact hrecord.decoder "LiteralPatterns"

theorem exists_overriddenBy {v : Value} {fields : List (String × Value)} (hv : v.HasFields fields)
    (h : ProperFields fields) :
    ∃ t, decoder nestingLimit v = .ok t ∧ OverriddenBy fields t := by
  have htext : Decoder.text.Shallow (nestingLimit - 1) := Decoder.shallow_text.mono (by decide)
  have htexts : Decoder.text.list.Shallow (nestingLimit - 1) :=
    Decoder.shallow_text.list.mono (by decide)
  obtain ⟨_, habsolute, habsolute'⟩ := h.absolutePath.exists_gives htext _
  obtain ⟨_, hshare, hshare'⟩ := h.sharePath.exists_gives htext _
  obtain ⟨_, hrelative, hrelative'⟩ := h.relativeBackslashPath.exists_gives htext _
  obtain ⟨_, hpassword, hpassword'⟩ := h.embeddedPassword.exists_gives htext _
  obtain ⟨_, hsecurity, hsecurity'⟩ := h.integratedSecurity.exists_gives htext _
  obtain ⟨_, hsafe, hsafe'⟩ := h.safePaths.exists_gives htexts _
  have hrecord : record.Overridden (nestingLimit - 1) fields ⟨_, _, _, _, _, _⟩ :=
    .field (.field (.field (.field (.field (.field (.build _) habsolute') hshare') hrelative')
      hpassword') hsecurity') hsafe'
  exact ⟨_, hrecord.decoder (by decide) "LiteralPatterns" hv,
    ⟨habsolute, hshare, hrelative, hpassword, hsecurity, hsafe⟩⟩

end LiteralTexts

namespace Tables

/-- Something holds of each of the tables but the patterns for literals. -/
structure EachTable (P : {α : Type} → String → Decoder α → (Tables → α) → Prop) : Prop where
  windowsNamespaces : P "windows_namespaces" Decoder.text.list (·.windowsNamespaces)
  legacyNamespaces : P "legacy_namespaces" Decoder.text.list (·.legacyNamespaces)
  interopAttributes : P "pinvoke_attributes" Decoder.text.list (·.interopAttributes)
  nativeLibraries : P "native_libraries" Decoder.text.list (·.nativeLibraries)
  windowsTypes : P "windows_types" Detect.TypeRef.decoder.list (·.windowsTypes)
  identityTypes : P "identity_types" Detect.TypeRef.decoder.list (·.identityTypes)
  legacyConfigTypes : P "legacy_config_types" Detect.TypeRef.decoder.list (·.legacyConfigTypes)
  directiveTokens : P "directive_tokens" Decoder.text.list (·.directiveTokens)
  platformBaseTypes : P "platform_base_types" Decoder.text.list (·.platformBaseTypes)
  comAttributes : P "com_attributes" Decoder.text.list (·.comAttributes)
  legacyServiceAttributes :
    P "legacy_service_attributes" Decoder.text.list (·.legacyServiceAttributes)
  environmentVariables : P "windows_env_vars" Decoder.text.list (·.environmentVariables)
  bannedPackages : P "banned_packages" BannedPackage.decoder.list (·.bannedPackages)
  inMemorySessionMarkers :
    P "in_memory_session_markers" Decoder.text.list (·.inMemorySessionMarkers)
  persistentStoreMarkers :
    P "persistent_store_markers" Decoder.text.list (·.persistentStoreMarkers)

/-- **A proper document of tables**: each is there at most once and with a valid value, and so are
the patterns for literals. -/
structure ProperFields (fields : List (String × Value)) : Prop where
  each : EachTable fun name d _ => Proper fields name d.Accepts
  literals : Proper fields "literals" (IsRecord LiteralTexts.ProperFields LiteralTexts.decoder)

/-- **Tables that a document overrides**: each has the value of the document or the default, and
so does each of the patterns for literals. -/
structure OverriddenBy (fields : List (String × Value)) (t : Tables) : Prop where
  each : EachTable fun name d field => Gives fields name d (field {}) (field t)
  literals : Gives fields "literals" LiteralTexts.decoder {} t.literals
  inLiterals : ∀ v inner, ("literals", v) ∈ fields → v.HasFields inner →
    LiteralTexts.OverriddenBy inner t.literals

theorem exists_overriddenBy {v : Value} {fields : List (String × Value)} (hv : v.HasFields fields)
    (h : ProperFields fields) :
    ∃ t, decoder nestingLimit v = .ok t ∧ OverriddenBy fields t := by
  have htexts : Decoder.text.list.Shallow (nestingLimit - 1) :=
    Decoder.shallow_text.list.mono (by decide)
  have hrefs : Detect.TypeRef.decoder.list.Shallow (nestingLimit - 1) :=
    Detect.TypeRef.shallow_decoder.list.mono (by decide)
  have hpackages : BannedPackage.decoder.list.Shallow (nestingLimit - 1) :=
    BannedPackage.shallow_decoder.list.mono (by decide)
  have hliterals : Proper fields "literals" LiteralTexts.decoder.Accepts :=
    h.literals.imp fun _ hv => hv.accepts fun _ _ => LiteralTexts.exists_overriddenBy
  obtain ⟨_, hwindows, hwindows'⟩ := h.each.windowsNamespaces.exists_gives htexts _
  obtain ⟨_, hlegacy, hlegacy'⟩ := h.each.legacyNamespaces.exists_gives htexts _
  obtain ⟨_, hinterop, hinterop'⟩ := h.each.interopAttributes.exists_gives htexts _
  obtain ⟨_, hnative, hnative'⟩ := h.each.nativeLibraries.exists_gives htexts _
  obtain ⟨_, htypes, htypes'⟩ := h.each.windowsTypes.exists_gives hrefs _
  obtain ⟨_, hidentity, hidentity'⟩ := h.each.identityTypes.exists_gives hrefs _
  obtain ⟨_, hconfig, hconfig'⟩ := h.each.legacyConfigTypes.exists_gives hrefs _
  obtain ⟨_, htokens, htokens'⟩ := h.each.directiveTokens.exists_gives htexts _
  obtain ⟨_, hbases, hbases'⟩ := h.each.platformBaseTypes.exists_gives htexts _
  obtain ⟨_, hcom, hcom'⟩ := h.each.comAttributes.exists_gives htexts _
  obtain ⟨_, hservices, hservices'⟩ := h.each.legacyServiceAttributes.exists_gives htexts _
  obtain ⟨_, hvariables, hvariables'⟩ := h.each.environmentVariables.exists_gives htexts _
  obtain ⟨_, hbanned, hbanned'⟩ := h.each.bannedPackages.exists_gives hpackages _
  obtain ⟨_, hsessions, hsessions'⟩ := h.each.inMemorySessionMarkers.exists_gives htexts _
  obtain ⟨_, hstores, hstores'⟩ := h.each.persistentStoreMarkers.exists_gives htexts _
  obtain ⟨_, hliterals, hliterals'⟩ :=
    hliterals.exists_gives (LiteralTexts.shallow_decoder.mono (by decide)) {}
  have hrecord : record.Overridden (nestingLimit - 1) fields
      ⟨_, _, _, _, _, _, _, _, _, _, _, _, _, _, _, _⟩ :=
    (Record.Overridden.build Tables.mk)
      |>.field hwindows' |>.field hlegacy' |>.field hinterop' |>.field hnative' |>.field htypes'
      |>.field hidentity' |>.field hconfig' |>.field htokens' |>.field hbases' |>.field hcom'
      |>.field hservices' |>.field hvariables' |>.field hbanned' |>.field hsessions'
      |>.field hstores' |>.field hliterals'
  refine ⟨_, hrecord.decoder (by decide) "CatalogConfig" hv, ⟨hwindows, hlegacy, hinterop, hnative,
      htypes, hidentity, hconfig, htokens, hbases, hcom, hservices, hvariables, hbanned, hsessions,
      hstores⟩,
    hliterals, ?_⟩
  intro v inner hmem hinner
  exact (h.literals.valid v hmem).overrides (fun _ _ => LiteralTexts.exists_overriddenBy) hinner
    (hliterals.named v hmem)

end Tables

end Catalog

end PlatformAudit
