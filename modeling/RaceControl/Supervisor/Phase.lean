import RaceControl.Supervisor.Shared

/-!
Where the control loop stands between two of its steps. Each step ends at the latest where the lock
is released or the state is published, so that whoever looks sees one of these places.
-/
namespace RaceControl

/-- A launch and the next thing it does. Before the server runs it can still fail. -/
inductive LaunchStage
  | announce
  | readDirectory
  | readOptions (dir : Path)
  | openRelay (dir : Path) (options : ServerOptions)
  | startServer (dir : Path) (options : ServerOptions) (relay : Nat)
  | adopt (dir : Path) (options : ServerOptions) (relay : Nat) (session : Session)
  | startWrapper (dir : Path) (options : ServerOptions)
  | startTracker (dir : Path) (options : ServerOptions)
  | startPlugins (dir : Path) (remaining : List Plugin)
  | startCommands (dir : Path) (remaining : List String)
  | finish
  deriving DecidableEq, Repr, Inhabited

structure Launch where
  ticket : Nat
  event : RaceEvent
  addressing : Addressing
  stage : LaunchStage
  deriving DecidableEq, Repr, Inhabited

/-- What a session is stopped for. -/
inductive Purpose
  | stop (ticket : Nat)
  | relaunch (ticket : Nat) (event : RaceEvent) (addressing : Addressing)
  | shutdown
  deriving DecidableEq, Repr, Inhabited

/-- What a running session is stopped for when a request is taken up. -/
def Request.purpose (request : Request) : Purpose :=
  match request.demand with
  | .stop => .stop request.ticket
  | .start event addressing => .relaunch request.ticket event addressing

/-- A stop that waits for the exit of the server, since a moment in milliseconds. -/
structure Stop where
  purpose : Purpose
  session : Session
  since : Nat
  /-- Whether the kill has been attempted. -/
  killed : Bool
  deriving DecidableEq, Repr, Inhabited

inductive TeardownStage
  | forget
  | closeRelay (relay : Option Nat)
  | stopWrapper
  | killChildren
  | prune
  | signal (remaining : List Nat)
  | finish
  deriving DecidableEq, Repr, Inhabited

/-- What the loop goes on with once an exit has been dealt with. -/
inductive Resumption
  | wait
  | finishStop (purpose : Purpose)
  | keepStopping (stop : Stop)
  deriving DecidableEq, Repr, Inhabited

inductive Phase
  /-- Between two requests. -/
  | waiting
  | launching (launch : Launch)
  | stopping (stop : Stop)
  | tearingDown (stage : TeardownStage) (next : Resumption)
  /-- All handles are gone and the loop has ended. -/
  | finished
  /-- The loop has been destroyed from outside. -/
  | destroyed
  deriving DecidableEq, Repr, Inhabited

namespace Phase

/-- Whether the loop keeps the lock between this step and the next, so that nobody can register a
channel or look a relay up. It keeps the lock over all starts of plugins and commands too; callers
are let in between them here, which allows more runs than there are. -/
def holdsLock : Phase → Bool
  | .tearingDown .prune _ => true
  | .tearingDown (.signal _) _ => true
  | _ => false

/-- Whether the loop waits for something to arrive. -/
def awaits : Phase → Bool
  | .waiting => true
  | .stopping _ => true
  | _ => false

def isOver : Phase → Bool
  | .finished => true
  | .destroyed => true
  | _ => false

end Phase
end RaceControl
