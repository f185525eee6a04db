/-!
# Components

The system is made of components, each made once, when it is first asked for, after those it is made
from. A shutdown drops them all, and what is asked for afterwards is made anew.
-/

namespace IncidentTriage

inductive Component
  | store
  | ingestor
  | telemetry
  | documents
  | orchestrator
  | scheduler
  deriving DecidableEq, Repr

namespace Component

def name : Component → String
  | .store => "store"
  | .ingestor => "ingestor"
  | .telemetry => "telemetry"
  | .documents => "documents"
  | .orchestrator => "orchestrator"
  | .scheduler => "scheduler"

/-- A component and all it is made from, what others are made from first. -/
def closure : Component → List Component
  | .store => [.store]
  | .ingestor => [.store, .ingestor]
  | .telemetry => [.store, .ingestor, .telemetry]
  | .documents => [.store, .ingestor, .documents]
  | .orchestrator => [.store, .orchestrator]
  | .scheduler => [.store, .ingestor, .telemetry, .documents, .scheduler]

end Component

/-- The components that have been made, with a number that no other object ever has. -/
structure Wiring where
  made : List (Component × Nat) := []
  next : Nat := 0

namespace Wiring

def find? (w : Wiring) (c : Component) : Option Nat :=
  (w.made.find? (·.1 = c)).map (·.2)

def make (w : Wiring) (c : Component) : Wiring :=
  match w.find? c with
  | some _ => w
  | none => { made := w.made ++ [(c, w.next)], next := w.next + 1 }

def get (w : Wiring) (c : Component) : Nat × Wiring :=
  let w := c.closure.foldl make w
  ((w.find? c).getD w.next, w)

def shutdown (w : Wiring) : Wiring :=
  { w with made := [] }

end Wiring

end IncidentTriage
