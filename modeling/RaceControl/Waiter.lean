import RaceControl.OsError
import RaceControl.Signal

/-!
The task that waits for the server process. It waits for the end of the process and for a
cancellation at once, in no order; cancelled, it asks the process to end and then waits on. It
reports one result, the one its wait has completed with.
-/
namespace RaceControl

/-- How a wait for a process completed. -/
inductive WaitResult
  | ended (status : ExitStatus)
  | failed (cause : OsError)
  deriving DecidableEq, Repr, Inhabited

inductive Waiter
  /-- Neither the end of the process nor a cancellation has been seen. -/
  | racing
  /-- The process has been asked to end. -/
  | draining
  | reported
  deriving DecidableEq, Repr, Inhabited

inductive WaiterEvent
  | ended (result : WaitResult)
  /-- A cancellation is seen; the request to end may fail with a reason. -/
  | cancelled (request : Except String Unit)

inductive WaiterAction
  | requestEnd
  | warn (reason : String)
  | report (result : WaitResult)

namespace Waiter

def step? : Waiter → WaiterEvent → Option (Waiter × List WaiterAction)
  | .racing, .ended result | .draining, .ended result => some (.reported, [.report result])
  | .racing, .cancelled (.ok ()) => some (.draining, [.requestEnd])
  | .racing, .cancelled (.error reason) => some (.draining, [.requestEnd, .warn reason])
  | _, _ => none

end Waiter
end RaceControl
