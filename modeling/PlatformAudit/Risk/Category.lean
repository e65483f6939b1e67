/-!
# Categories

The area that a risk belongs to.
-/

namespace PlatformAudit

/-- The area that a risk belongs to. -/
inductive Category where
  | platformApi
  | filesystem
  | security
  | configuration
  | dependencies
  | general
  deriving DecidableEq

namespace Category

/-- All categories, in their order. -/
def all : List Category :=
  [platformApi, filesystem, security, configuration, dependencies, general]

/-- The place of a category among all. -/
def rank : Category → Nat
  | platformApi => 0
  | filesystem => 1
  | security => 2
  | configuration => 3
  | dependencies => 4
  | general => 5

instance : Ord Category where
  compare := compareOn rank

instance : Std.TransOrd Category :=
  inferInstanceAs (Std.TransCmp (compareOn rank))

/-- Different categories have different places. -/
theorem rank_injective {a b : Category} : a.rank = b.rank → a = b := by
  cases a <;> cases b <;> simp [rank]

instance : Std.LawfulEqOrd Category where
  eq_of_compare h := rank_injective (Std.LawfulEqOrd.eq_of_compare (α := Nat) h)

/-- The name of a category. -/
def name : Category → String
  | platformApi => "platform-api"
  | filesystem => "filesystem"
  | security => "security"
  | configuration => "configuration"
  | dependencies => "dependencies"
  | general => "general"

end Category

end PlatformAudit
