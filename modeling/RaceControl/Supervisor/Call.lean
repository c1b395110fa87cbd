import RaceControl.Supervisor.Step

/-!
The calls that a handle offers. A call is one request to the control loop, or two: a restart of a
running session stops it and then starts the same event again.
-/
namespace RaceControl

inductive Call
  | start (event : RaceEvent) (addressing : Addressing)
  | stop
  | restart
  deriving DecidableEq, Repr, Inhabited

/-- The demands of a call, in the order they are made; each waits for the success of the one
before. -/
structure Plan where
  first : Demand
  second : Option Demand
  deriving DecidableEq, Repr, Inhabited

namespace Call

/-- What a restart starts: the event of the session or else the one launched last. -/
def restarted? (shared : Shared) : Option Demand :=
  (shared.event <|> shared.lastEvent).map fun event => .start event shared.addressing

/-- The plan of a call. Whether a session runs is looked at before event and addressing are. -/
def plan (running : Bool) (shared : Shared) : Call → Except SupervisorError Plan
  | .start event addressing => .ok ⟨.start event addressing, none⟩
  | .stop => .ok ⟨.stop, none⟩
  | .restart =>
    match restarted? shared with
    | none => .error .nothingToRestart
    | some again => .ok (if running then ⟨.stop, some again⟩ else ⟨again, none⟩)

/-- What follows the result of a demand: the next demand, if the first has succeeded and there is
one, or the return of the call. -/
def following (next : Option Demand) :
    Except SupervisorError Unit → Demand ⊕ Except SupervisorError Unit
  | .ok () => next.elim (.inr (.ok ())) .inl
  | .error e => .inr (.error e)

end Call

namespace System

/-- Waiting for the idle state succeeds at once when it is there, and fails when it can no longer
come. None while it still can. -/
def waitIdle? (s : System) : Option (Except SupervisorError Unit) :=
  if s.published = .idle then some (.ok ())
  else if s.phase.isOver then some (.error .loopClosed)
  else none

end System
end RaceControl
