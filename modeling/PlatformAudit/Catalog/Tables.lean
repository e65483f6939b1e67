import PlatformAudit.Detect.Types

/-!
# The tables of the rule catalogue

What the built-in rules look for. Each table can be replaced by the user, and the
default values are the portability risks of moving from Windows to other
platforms.
-/

namespace PlatformAudit.Catalog

open Text Detect

/-- A package that should be replaced, and by what. A star at the end of its name stands for any
continuation. -/
structure BannedPackage where
  name : String
  replacement : String
  deriving DecidableEq

/-- Whether a package is a banned one. -/
def BannedPackage.covers (b : BannedPackage) (package : String) : Bool :=
  match dropFinal? ['*'] b.name.toList with
  | some start => (dropStartIgnoringCase start package.toList).isSome
  | none => sameIgnoringCase package.toList b.name.toList

/-- The patterns of the rules about string literals. -/
structure LiteralTexts where
  absolutePath : String := "^[A-Za-z]:[\\\\/]"
  sharePath : String := "^\\\\\\\\[^\\\\/\\s]+[\\\\/][^\\\\/\\s]+"
  relativeBackslashPath : String := "^[A-Za-z0-9_.\\-]+(\\\\[A-Za-z0-9_.\\-]+)+\\\\?$"
  embeddedPassword : String := "(?i)(^|;)\\s*(password|pwd)\\s*=\\s*[^;\\s]+"
  integratedSecurity : String :=
    "(?i)integrated\\s+security\\s*=\\s*(sspi|true|yes)|trusted_connection\\s*=\\s*(true|yes)"
  /-- Literals with one of these are not reported as paths. -/
  safePaths : List String :=
    ["(?i)^[a-z][a-z0-9+.\\-]*://", "^[A-Za-z0-9_.\\-]+(/[A-Za-z0-9_.\\-]+)*/?$"]
  deriving DecidableEq

/-- What the built-in rules look for. -/
structure Tables where
  windowsNamespaces : List String :=
    ["Microsoft.Win32", "System.Management", "System.Windows.Forms", "System.DirectoryServices",
     "System.ServiceProcess", "System.Drawing.Printing", "Microsoft.VisualBasic.Devices"]
  legacyNamespaces : List String :=
    ["System.Web", "System.ServiceModel", "System.Runtime.Remoting", "System.EnterpriseServices"]
  interopAttributes : List String := ["DllImport", "LibraryImport"]
  nativeLibraries : List String :=
    ["kernel32", "user32", "advapi32", "gdi32", "ntdll", "ole32", "oleaut32", "shell32",
     "comctl32", "comdlg32", "winmm", "ws2_32", "secur32", "crypt32", "netapi32", "wininet",
     "winhttp", "psapi", "dbghelp", "iphlpapi", "setupapi", "userenv", "wtsapi32", "shlwapi",
     "version", "msvcrt"]
  windowsTypes : List TypeRef :=
    [⟨"Microsoft.Win32", "Registry"⟩, ⟨"Microsoft.Win32", "RegistryKey"⟩,
     ⟨"System.Diagnostics", "EventLog"⟩, ⟨"System.Diagnostics", "PerformanceCounter"⟩,
     ⟨"System.Management", "ManagementObjectSearcher"⟩,
     ⟨"System.Management", "ManagementObject"⟩, ⟨"System.Management", "ManagementClass"⟩]
  identityTypes : List TypeRef :=
    [⟨"System.Security.Principal", "WindowsIdentity"⟩,
     ⟨"System.Security.Principal", "WindowsPrincipal"⟩,
     ⟨"System.Security.Principal", "WindowsImpersonationContext"⟩]
  legacyConfigTypes : List TypeRef :=
    [⟨"System.Configuration", "ConfigurationManager"⟩,
     ⟨"System.Web.Configuration", "WebConfigurationManager"⟩]
  directiveTokens : List String := ["WINDOWS", "WIN32", "WIN64", "NETFRAMEWORK", "NET4"]
  platformBaseTypes : List String :=
    ["System.ServiceProcess.ServiceBase", "System.Windows.Forms.Form",
     "System.Windows.Forms.UserControl", "System.Web.UI.Page", "System.Web.HttpApplication",
     "System.Web.IHttpModule"]
  comAttributes : List String :=
    ["ComVisible", "ComImport", "ClassInterface", "ComDefaultInterface", "ProgId"]
  legacyServiceAttributes : List String :=
    ["WebMethod", "WebService", "ServiceContract", "OperationContract"]
  environmentVariables : List String :=
    ["APPDATA", "LOCALAPPDATA", "PROGRAMFILES", "PROGRAMFILES(X86)", "PROGRAMDATA", "SYSTEMROOT",
     "SYSTEMDRIVE", "WINDIR", "USERPROFILE", "TEMP", "TMP", "COMSPEC", "HOMEDRIVE", "HOMEPATH"]
  bannedPackages : List BannedPackage :=
    [⟨"Microsoft.AspNet.Mvc", "Microsoft.AspNetCore.Mvc"⟩,
     ⟨"Microsoft.AspNet.WebApi*", "ASP.NET Core controllers"⟩,
     ⟨"Microsoft.Owin*", "ASP.NET Core middleware"⟩,
     ⟨"EntityFramework", "Microsoft.EntityFrameworkCore"⟩,
     ⟨"WindowsAzure.Storage", "Azure.Storage.Blobs"⟩,
     ⟨"Microsoft.Practices.EnterpriseLibrary*", "Microsoft.Extensions.* equivalents"⟩,
     ⟨"System.Web.*", "ASP.NET Core packages"⟩]
  inMemorySessionMarkers : List String := ["AddSession", "AddDistributedMemoryCache"]
  persistentStoreMarkers : List String :=
    ["AddStackExchangeRedisCache", "AddDistributedRedisCache", "AddDistributedSqlServerCache",
     "AddCosmosCache"]
  literals : LiteralTexts := {}
  deriving DecidableEq

end PlatformAudit.Catalog
