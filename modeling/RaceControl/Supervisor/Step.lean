import RaceControl.Supervisor.Teardown

/-!
One step of a supervisor. The control loop, the waiters, the detached wrapper starts, the readers of
the output, the tasks of relays and the callers take their steps in any order; a step that is not
due is refused.
-/
namespace RaceControl

inductive Input
  /-- The control loop goes on with what it has begun. -/
  | proceed (env : Surroundings)
  /-- The control loop looks at its queues and timers; `kill` is what a forced kill would give. -/
  | poll (now : Nat) (kill : Except String Unit)
  | submit (request : Request)
  /-- A caller no longer waits for its result. -/
  | hangUp (ticket : Nat)
  | cloneHandle
  | dropHandle
  /-- The control loop is destroyed wherever it stands. -/
  | destroy
  | waiterStep (generation : Nat) (event : WaiterEvent)
  /-- One of the detached starts of the wrapper is made; they come in any order. -/
  | runWrapper (number : Nat) (result : Except String Unit)
  | openChannel (capacity : Nat)
  /-- The receiver takes one signal from its queue, if one is there. -/
  | receiveSignal (number : Nat)
  | drainChannel (number : Nat)
  | closeChannel (number : Nat)
  | wrote (generation : Nat) (stream : Stream) (bytes : List UInt8)
  /-- A reader takes up to so many bytes from a stream. -/
  | capture (generation : Nat) (stream : Stream) (count : Nat)
  | beginSend (ticket : Nat) (payload : List UInt8)
  | holdSocket (ticket : Nat)
  | transmit (ticket : Nat) (result : Except OsError Unit)
  /-- A task of a relay that has been closed ends. -/
  | endTask (task : RelayTask)

/-- The most bytes a reader takes at once. -/
def captureSize : Nat := 4096

namespace System

/-- Takes the oldest request from the queue. -/
def takeRequest (s : System) (now : Nat) (request : Request) : System × List Effect :=
  andThen (s, [.took request]) fun s => s.beginStop now request.purpose

/-- Looks at what the loop waits for between two requests: an exit first, then the oldest request;
once every handle is gone, the end. -/
def pollQueues (s : System) (now : Nat) : Option (System × List Effect) :=
  match s.exits, s.requests with
  | exit :: exits, _ => some ({ s with exits }.handleExit exit .wait)
  | [], request :: requests => some ({ s with requests }.takeRequest now request)
  | [], [] => if s.handles = 0 then some (s.beginStop now .shutdown) else none

def poll (s : System) (now : Nat) (kill : Except String Unit) : Option (System × List Effect) :=
  match s.phase with
  | .waiting => s.pollQueues now
  | .stopping stop => s.pollStop now kill stop
  | _ => none

def proceed (s : System) (env : Surroundings) : Option (System × List Effect) :=
  match s.phase with
  | .launching l => some (s.stepLaunch env l)
  | .tearingDown stage next => some (s.stepTeardown env stage next)
  | _ => none

/-- Puts a request into the queue. A loop that is over answers none. -/
def submit (s : System) (request : Request) : Option (System × List Effect) :=
  if s.handles = 0 then none
  else if s.phase.isOver then
    some (s, [.answered request.ticket (.error .loopClosed) true])
  else if s.requests.length < requestCapacity then
    some ({ s with
      requests := s.requests ++ [request]
      listening := s.listening ++ [request.ticket] }, [])
  else none

/-- Ends the loop without another step. Whoever waits for a result learns that there is none. -/
def destroy (s : System) : System × List Effect :=
  ({ s with phase := .destroyed, requests := [], listening := [] },
    s.listening.map fun ticket => .answered ticket (.error .loopClosed) true)

/-- Whether the waiter of a server can see an event: a cancellation only once there is one. -/
def canSee (server : Server) : WaiterEvent → Bool
  | .cancelled _ => server.isCancelled
  | .ended _ => true

/-- Does what the waiter of a server asks for. -/
def actFor (s : System) (generation pid : Nat) : WaiterAction → System × List Effect
  | .requestEnd => (s, [.endRequested generation pid])
  | .warn reason => s.note (.endRequestFailed reason)
  | .report result =>
    ({ s with exits := s.exits ++ [⟨generation, result⟩] }, [.exitQueued generation])

def setWaiter (s : System) (generation : Nat) (waiter : Waiter) : System :=
  { s with servers := s.servers.map fun server =>
      if server.generation = generation then { server with waiter } else server }

def stepWaiter (s : System) (generation : Nat) (event : WaiterEvent) :
    Option (System × List Effect) :=
  match s.servers.find? (·.generation == generation) with
  | none => none
  | some server =>
    if canSee server event then
      (server.waiter.step? event).map fun (waiter, actions) =>
        actions.foldl (fun acc action => andThen acc fun s => s.actFor generation server.pid action)
          (s.setWaiter generation waiter, [])
    else none

/-- A start of the wrapper that fails is logged. -/
def wrapperComplaint : Except String Unit → List Effect
  | .ok () => []
  | .error cause => [.logged (.wrapperFailed cause)]

/-- Makes one of the detached starts of the wrapper. -/
def runWrapper (s : System) (number : Nat) (result : Except String Unit) :
    Option (System × List Effect) :=
  s.wrapperStarts[number]?.map fun start =>
    ({ s with wrapperStarts := s.wrapperStarts.eraseIdx number },
      .wrapperStarted start :: wrapperComplaint result)

/-- Registers a new channel for done signals. -/
def openChannel (s : System) (capacity : Nat) : Option (System × List Effect) :=
  if s.phase.holdsLock then none
  else some ({ s with
    channels := s.channels ++ [⟨capacity, 0, false⟩]
    shared := { s.shared with waiters := s.shared.waiters ++ [s.channels.length] } }, [])

def onChannel (s : System) (number : Nat) (change : Channel → Channel) : System :=
  { s with channels := s.channels.modify number change }

/-- The pipe of a stream, if there is one. -/
def pipe? (s : System) (generation : Nat) (stream : Stream) : Option Pipe :=
  s.pipes.find? fun p => p.generation == generation && p.stream == stream

def setPipe (s : System) (pipe : Pipe) : System :=
  { s with pipes := s.pipes.map fun p =>
      if p.generation = pipe.generation ∧ p.stream = pipe.stream then pipe else p }

def wrote (s : System) (generation : Nat) (stream : Stream) (bytes : List UInt8) :
    Option (System × List Effect) :=
  (s.pipe? generation stream).map fun pipe =>
    (s.setPipe { pipe with unread := pipe.unread ++ bytes }, [])

/-- Moves bytes from a stream into the log. -/
def capture (s : System) (generation : Nat) (stream : Stream) (count : Nat) :
    Option (System × List Effect) :=
  (s.pipe? generation stream).bind fun pipe =>
    let bytes := pipe.unread.take (min count captureSize)
    if bytes.isEmpty then none
    else
      let s := s.setPipe { pipe with unread := pipe.unread.drop bytes.length }
      some ({ s with log := s.log.append bytes }, [.captured generation stream bytes])

def beginSend (s : System) (ticket : Nat) (payload : List UInt8) :
    Option (System × List Effect) :=
  if s.phase.holdsLock then none
  else
    match s.shared.relay with
    | none => some (s, [.sendAnswered ticket (.error .noOpenConnection)])
    | some relay =>
      some ({ s with sendings := s.sendings ++ [⟨ticket, payload, .found relay⟩] }, [])

def sending? (s : System) (ticket : Nat) : Option Sending :=
  s.sendings.find? (·.ticket == ticket)

def dropSending (s : System) (ticket : Nat) : System :=
  { s with sendings := s.sendings.filter (·.ticket != ticket) }

/-- What a call that sends a message is told of a failure of the relay. A relay that is closed is no
open connection. -/
def sendFailure : RelayError → SupervisorError
  | .notOpen => .noOpenConnection
  | other => .relay other

/-- What such a call returns when the operating system has answered. -/
def sendResult : Except OsError Unit → Except SupervisorError Unit
  | .ok () => .ok ()
  | .error cause => .error (sendFailure (.send cause))

/-- A message takes hold of the socket of the relay that it has found. -/
def holdSocket (s : System) (ticket : Nat) : Option (System × List Effect) := do
  let sending ← s.sending? ticket
  match sending.stage with
  | .ready .. => none
  | .found number =>
    let relay ← s.relay? number
    let rest := s.dropSending ticket
    match relay.outbound sending.payload with
    | .ok datagram =>
      let held : Sending := { sending with stage := .ready number datagram }
      return ({ rest with sendings := rest.sendings ++ [held] }, [])
    | .error e => return (rest, [.sendAnswered ticket (.error (sendFailure e))])

/-- A message is handed to the operating system, and the socket let go. -/
def transmit (s : System) (ticket : Nat) (result : Except OsError Unit) :
    Option (System × List Effect) := do
  let sending ← s.sending? ticket
  match sending.stage with
  | .found _ => none
  | .ready _ datagram =>
    return (s.dropSending ticket, [.sent ticket datagram, .sendAnswered ticket (sendResult result)])

/-- A task of a closed relay ends, and lets go of the sockets. An open relay keeps its tasks. -/
def endTask (s : System) (task : RelayTask) : Option (System × List Effect) :=
  if task ∈ s.relayTasks ∧ s.isOpen task.relay = false then
    some ({ s with relayTasks := s.relayTasks.erase task }, [])
  else none

def step? (s : System) : Input → Option (System × List Effect)
  | .proceed env => s.proceed env
  | .poll now kill => s.poll now kill
  | .submit request => s.submit request
  | .hangUp ticket => some ({ s with listening := s.listening.filter (· != ticket) }, [])
  | .cloneHandle => if s.handles = 0 then none else some ({ s with handles := s.handles + 1 }, [])
  | .dropHandle => if s.handles = 0 then none else some ({ s with handles := s.handles - 1 }, [])
  | .destroy => if s.phase.isOver then none else some s.destroy
  | .waiterStep generation event => s.stepWaiter generation event
  | .runWrapper number result => s.runWrapper number result
  | .openChannel capacity => s.openChannel capacity
  | .receiveSignal number =>
    some (s.onChannel number fun c => { c with queued := c.queued - 1 }, [])
  | .drainChannel number => some (s.onChannel number fun c => { c with queued := 0 }, [])
  | .closeChannel number => some (s.onChannel number fun c => { c with isClosed := true }, [])
  | .wrote generation stream bytes => s.wrote generation stream bytes
  | .capture generation stream count => s.capture generation stream count
  | .beginSend ticket payload => s.beginSend ticket payload
  | .holdSocket ticket => s.holdSocket ticket
  | .transmit ticket result => s.transmit ticket result
  | .endTask task => s.endTask task

/-- A finite run, with everything that could be seen of it. -/
inductive Run (start : System) : System → List Effect → Prop
  | none : Run start start []
  | step {s t : System} {seen more : List Effect} {i : Input} :
    Run start s seen → s.step? i = some (t, more) → Run start t (seen ++ more)

end System
end RaceControl
