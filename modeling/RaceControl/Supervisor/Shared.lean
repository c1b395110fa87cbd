import RaceControl.Addressing
import RaceControl.Children
import RaceControl.Options

/-!
What the control loop and its callers know of the current session, and the requests by which callers
ask for another one.
-/
namespace RaceControl

/-- What the server runs. The supervisor keeps it, logs its description and hands it on. -/
structure RaceEvent where
  description : String
  deriving DecidableEq, Repr, Inhabited

inductive Demand
  | start (event : RaceEvent) (addressing : Addressing)
  | stop
  deriving DecidableEq, Repr, Inhabited

/-- A demand with the ticket of the call that waits for its result. -/
structure Request where
  ticket : Nat
  demand : Demand
  deriving DecidableEq, Repr, Inhabited

/-- The session of the control loop. Generations are never used twice. -/
structure Session where
  generation : Nat
  pid : Nat
  deriving DecidableEq, Repr, Inhabited

/-- A bounded queue on which someone waits for sessions to end. -/
structure Channel where
  capacity : Nat
  queued : Nat
  isClosed : Bool
  deriving DecidableEq, Repr, Inhabited

/-- Appends one signal if the queue is open and not full. -/
def Channel.trySend (c : Channel) : Channel :=
  if c.isClosed ∨ c.capacity ≤ c.queued then c else { c with queued := c.queued + 1 }

/-- The state under the lock that the control loop shares with its callers. -/
structure Shared where
  event : Option RaceEvent
  /-- The event launched last. It outlives its session. -/
  lastEvent : Option RaceEvent
  addressing : Addressing
  /-- The number of the relay of the session. -/
  relay : Option Nat
  children : Children
  /-- Numbers of the channels that are signalled, in the order they were registered. -/
  waiters : List Nat
  deriving DecidableEq, Repr, Inhabited

def Shared.fresh : Shared := ⟨none, none, .unset, none, .none, []⟩

/-- A start of the Content Manager wrapper that runs beside the control loop. -/
structure WrapperStart where
  generation : Nat
  port : Port
  event : RaceEvent
  deriving DecidableEq, Repr, Inhabited

/-- The services a supervisor may have. -/
structure Collaborators where
  hasWrapper : Bool
  hasTracker : Bool
  deriving DecidableEq, Repr, Inhabited

end RaceControl
