import RaceControl.Waiter

/-!
A server process under the eyes of its waiter. The process ends at any time and for any reason, and
is cancelled at any time and any number of times. The waiter polls its wait and the cancellation in
any order; a poll that stays pending changes nothing and is no step.
-/
namespace RaceControl

/-- A process as the system knows it. One that has ended is kept until a wait takes its status. -/
inductive ProcessState
  | running
  | ended (status : ExitStatus)
  | reaped (status : ExitStatus)
  deriving DecidableEq, Repr, Inhabited

/-- A server process with the task that waits for it. -/
structure Vigil where
  pid : Nat
  process : ProcessState
  isCancelled : Bool
  waiter : Waiter
  deriving DecidableEq, Repr, Inhabited

inductive VigilEvent
  /-- The process ends: by itself, as it was asked to, or killed by someone else. -/
  | processEnded (status : ExitStatus)
  | cancelled
  /-- The waiter polls its wait, which may fail. -/
  | waitPolled (fault : Option OsError)
  /-- The waiter polls the cancellation; the request to end that follows may fail. -/
  | cancellationPolled (request : Except String Unit)

inductive VigilEffect
  | ended (status : ExitStatus)
  | cancelled
  /-- The process is asked to end, by its id if it still has one. -/
  | requested (target : Option Nat)
  | warned (reason : String)
  /-- A wait has completed. -/
  | waited (result : WaitResult)
  | reported (result : WaitResult)
  deriving DecidableEq, Repr

namespace Vigil

/-- A process that has just been started. -/
def begin (pid : Nat) : Vigil := ⟨pid, .running, false, .racing⟩

def cancel (v : Vigil) : Vigil := { v with isCancelled := true }

/-- The id of the process, until its status has been taken. -/
def id? (v : Vigil) : Option Nat :=
  match v.process with
  | .reaped _ => none
  | _ => some v.pid

/-- What a wait for the process completes with, and what it makes of the process. A status that has
been taken is given again. -/
def wait? (v : Vigil) (fault : Option OsError) : Option (WaitResult × ProcessState) :=
  match v.process, fault with
  | .reaped status, _ => some (.ended status, .reaped status)
  | process, some cause => some (.failed cause, process)
  | .ended status, none => some (.ended status, .reaped status)
  | .running, none => none

/-- Nothing is sent to a process without an id, so that nothing can fail there. -/
def requestResult (v : Vigil) (request : Except String Unit) : Except String Unit :=
  if v.id?.isSome then request else .ok ()

def effect (v : Vigil) : WaiterAction → VigilEffect
  | .requestEnd => .requested v.id?
  | .warn reason => .warned reason
  | .report result => .reported result

def step? (v : Vigil) : VigilEvent → Option (Vigil × List VigilEffect)
  | .processEnded status =>
    match v.process with
    | .running => some ({ v with process := .ended status }, [.ended status])
    | _ => none
  | .cancelled => some (v.cancel, [.cancelled])
  | .waitPolled fault => do
    let (result, process) ← v.wait? fault
    let (waiter, actions) ← v.waiter.step? (.ended result)
    return ({ v with process, waiter }, .waited result :: actions.map v.effect)
  | .cancellationPolled request =>
    if v.isCancelled then do
      let (waiter, actions) ← v.waiter.step? (.cancelled (v.requestResult request))
      return ({ v with waiter }, actions.map v.effect)
    else none

end Vigil
end RaceControl
