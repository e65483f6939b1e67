/-!
# Stages of a run

A run goes through its stages in order, and ends complete, fatal or cancelled.
-/

namespace PlatformAudit

/-- Where a run stands. -/
inductive Stage where
  | idle
  | loading
  | running
  | aggregating
  | complete
  /-- The units could not be listed. -/
  | fatal
  | cancelled
  deriving DecidableEq

namespace Stage

/-- All stages. -/
def all : List Stage :=
  [idle, loading, running, aggregating, complete, fatal, cancelled]

/-- The name of a stage in a document. -/
def name : Stage → String
  | idle => "idle"
  | loading => "loading"
  | running => "running"
  | aggregating => "aggregating"
  | complete => "complete"
  | fatal => "fatal"
  | cancelled => "cancelled"

/-- The name of a stage in a message. -/
def title : Stage → String
  | idle => "Idle"
  | loading => "Loading"
  | running => "Running"
  | aggregating => "Aggregating"
  | complete => "Complete"
  | fatal => "Fatal"
  | cancelled => "Cancelled"

/-- Whether a run ends at a stage. -/
def isTerminal : Stage → Bool
  | complete | fatal | cancelled => true
  | _ => false

/-- Whether a run may go from one stage to another. -/
def canAdvanceTo : Stage → Stage → Bool
  | idle, loading => true
  | loading, running => true
  | loading, fatal => true
  | loading, cancelled => true
  | running, aggregating => true
  | running, cancelled => true
  | aggregating, complete => true
  | _, _ => false

end Stage

end PlatformAudit
