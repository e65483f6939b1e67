import PlatformAudit.Text.Ascii
import PlatformAudit.Text.Blank

/-!
# Severities

How grave a risk is, from advice to blocker, and what it costs to remedy.
-/

namespace PlatformAudit

/-- How grave a risk is, in ascending order. -/
inductive Severity where
  | info
  | low
  | medium
  | high
  | critical
  deriving DecidableEq

namespace Severity

/-- All severities, weakest first. -/
def all : List Severity :=
  [info, low, medium, high, critical]

/-- The place of a severity among all. -/
def rank : Severity → Nat
  | info => 0
  | low => 1
  | medium => 2
  | high => 3
  | critical => 4

instance : Ord Severity where
  compare := compareOn rank

instance : Std.TransOrd Severity :=
  inferInstanceAs (Std.TransCmp (compareOn rank))

/-- Different severities have different places. -/
theorem rank_injective {a b : Severity} : a.rank = b.rank → a = b := by
  cases a <;> cases b <;> simp [rank]

instance : Std.LawfulEqOrd Severity where
  eq_of_compare h := rank_injective (Std.LawfulEqOrd.eq_of_compare (α := Nat) h)

instance : LE Severity where
  le a b := a.rank ≤ b.rank

instance (a b : Severity) : Decidable (a ≤ b) :=
  inferInstanceAs (Decidable (a.rank ≤ b.rank))

/-- What it takes to remedy a risk, in days of work. -/
def effort : Severity → Float
  | critical => 5.0
  | high => 3.0
  | medium => 1.0
  | low => 0.5
  | info => 0.1

/-- The name of a severity. -/
def name : Severity → String
  | critical => "Critical"
  | high => "High"
  | medium => "Medium"
  | low => "Low"
  | info => "Info"

/-- Reads a severity as a user writes it: without regard to case and surrounding blanks. A text
that names none is given back as it was compared. -/
def parse (text : String) : Except String Severity :=
  let word := String.ofList ((Text.trim text.toList).map Text.asciiLower)
  match word with
  | "critical" => .ok critical
  | "high" => .ok high
  | "medium" => .ok medium
  | "low" => .ok low
  | "info" => .ok info
  | "informational" => .ok info
  | _ => .error word

/-- The message about a text that names no severity. -/
def unknownMessage (word : String) : String :=
  "unknown severity: " ++ word ++ " (expected critical|high|medium|low|info)"

end Severity

end PlatformAudit
