import PlatformAudit.Text.CodeRange

/-!
# Case mappings as runs

A case mapping sends most letters a fixed distance away, either every letter of a
stretch or every other one (where capitals and small letters alternate). So a
mapping of over a thousand characters is a table of some two hundred runs, and
the same table answers the inverse question, which characters are sent to a given
one.
-/

namespace PlatformAudit.Text

/-- The characters `first`, `first + stride`, … up to `last`, each sent `offset` code points
away. -/
structure CaseRun where
  first : Nat
  last : Nat
  stride : Nat
  offset : Int

namespace CaseRun

/-- Whether the run moves this code point. -/
def moves (r : CaseRun) (n : Nat) : Bool :=
  r.first ≤ n && n ≤ r.last && (n - r.first) % r.stride = 0

/-- The image of a character: that of the first run that moves it, or the character itself. -/
def apply (runs : List CaseRun) (c : Char) : Char :=
  match runs.find? (·.moves c.toNat) with
  | some r => Char.ofNat ((c.toNat : Int) + r.offset).toNat
  | none => c

/-- The characters that some run sends to this one. -/
def sources (runs : List CaseRun) (c : Char) : List Char :=
  runs.filterMap fun r =>
    let n := ((c.toNat : Int) - r.offset).toNat
    if r.moves n then some (Char.ofNat n) else none

end CaseRun

end PlatformAudit.Text
