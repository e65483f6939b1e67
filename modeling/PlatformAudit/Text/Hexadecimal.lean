/-!
# Hexadecimal digits

Code points are written in hexadecimal, with small or capital letters when they
are read and with small ones when they are written.
-/

namespace PlatformAudit.Text

/-- The value of a hexadecimal digit. -/
def hexDigit? (c : Char) : Option Nat :=
  if '0' ≤ c ∧ c ≤ '9' then some (c.toNat - 48)
  else if 'a' ≤ c ∧ c ≤ 'f' then some (c.toNat - 87)
  else if 'A' ≤ c ∧ c ≤ 'F' then some (c.toNat - 55)
  else none

/-- The number that hexadecimal digits stand for, if they all are some and there is one. -/
def ofHexDigits? (cs : List Char) : Option Nat := do
  let ds ← cs.mapM hexDigit?
  if ds.isEmpty then none else some (ds.foldl (fun n d => 16 * n + d) 0)

/-- The hexadecimal digits of a number, without leading zeros. -/
def hexDigits (n : Nat) : List Char :=
  Nat.toDigits 16 n

end PlatformAudit.Text
