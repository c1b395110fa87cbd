import RaceControl.Journal
import RaceControl.LogBuffer
import RaceControl.Relay
import RaceControl.Supervisor.Phase

/-!
The supervisor as a whole: the control loop, what it shares with its callers, the tasks beside it,
and the queues between them.
-/
namespace RaceControl

/-- A server process with the task that waits for it. -/
structure Server where
  generation : Nat
  pid : Nat
  isCancelled : Bool
  waiter : Waiter
  deriving DecidableEq, Repr, Inhabited

/-- The end of a server process on its way to the control loop. -/
structure Exit where
  generation : Nat
  result : WaitResult
  deriving DecidableEq, Repr, Inhabited

inductive Stream
  | output
  | errors
  deriving DecidableEq, Repr, Inhabited

/-- One output stream of a server, with what has been written to it and not been read yet. -/
structure Pipe where
  generation : Nat
  stream : Stream
  unread : List UInt8
  deriving DecidableEq, Repr, Inhabited

inductive SendStage
  /-- The relay has been looked up. -/
  | found (relay : Nat)
  /-- The main socket of the relay is held. -/
  | ready (relay : Nat) (datagram : Relay.Datagram)
  deriving DecidableEq, Repr, Inhabited

/-- A message on its way to the server. -/
structure Sending where
  ticket : Nat
  payload : List UInt8
  stage : SendStage
  deriving DecidableEq, Repr, Inhabited

/-- The ticket of a message that holds the main socket of a relay. -/
def Sending.holds? (sending : Sending) (number : Nat) : Option Nat :=
  match sending.stage with
  | .ready relay _ => if relay = number then some sending.ticket else none
  | .found _ => none

/-- The task of a loop of a relay. -/
structure RelayTask where
  relay : Nat
  loop : RelayLoop
  deriving DecidableEq, Repr, Inhabited

structure System where
  settings : Settings
  collaborators : Collaborators
  /-- The state that decides which transitions are legal. -/
  machine : State
  /-- The state that callers see. -/
  published : State
  phase : Phase
  session : Option Session
  nextGeneration : Nat
  shared : Shared
  /-- Every relay ever opened, by number. -/
  relays : List Relay
  /-- The tasks of relays that have not ended. -/
  relayTasks : List RelayTask
  /-- Every server process ever started. -/
  servers : List Server
  exits : List Exit
  requests : List Request
  handles : Nat
  /-- Tickets of the calls whose callers still listen. -/
  listening : List Nat
  /-- Queues of done signals, by number. -/
  channels : List Channel
  wrapperStarts : List WrapperStart
  sendings : List Sending
  log : LogBuffer
  pipes : List Pipe
  deriving Inhabited

/-- What others can see of a supervisor. -/
inductive Effect
  | took (request : Request)
  /-- The result of a request; `isHeard` tells whether its caller still listened. -/
  | answered (ticket : Nat) (result : Except SupervisorError Unit) (isHeard : Bool)
  | published (source target : State)
  | logged (entry : LogEntry)
  | launching (event : RaceEvent)
  | relayOpened (relay : Nat)
  | relayClosed (relay : Nat)
  | serverStarted (generation pid : Nat) (spec : ProcessSpec)
  | launched (generation : Nat)
  | cancelled (generation : Nat)
  | endRequested (generation pid : Nat)
  | serverKilled (pid : Nat)
  | exitQueued (generation : Nat)
  | exitHandled (generation : Nat) (isStale : Bool)
  | wrapperStarted (start : WrapperStart)
  | wrapperStopped
  | configWritten (options : TrackerOptions)
  | childStarted (child : Child) (spec : ProcessSpec)
  /-- The kill of all these processes begins. -/
  | killing (children : List Child)
  | childKilled (child : Child)
  /-- A round of done signals begins, over these channels. -/
  | signalling (channels : List Nat)
  | signalled (channel : Nat)
  | tornDown (generation : Nat)
  | sent (ticket : Nat) (datagram : Relay.Datagram)
  | sendAnswered (ticket : Nat) (result : Except SupervisorError Unit)
  | captured (generation : Nat) (stream : Stream) (bytes : List UInt8)
  | finished

/-- What the surroundings answer to the step that is taken next. -/
structure Surroundings where
  workingDir : Except OsError Path
  serverOptions : Except String ServerOptions
  trackerOptions : Except String TrackerOptions
  /-- What the tracker tells of its installation, if there is one. -/
  tracker : Tracker
  writeConfig : TrackerOptions → Except String Unit
  network : NetworkView
  /-- Starting a process gives its id. -/
  start : ProcessSpec → Except OsError Nat
  killChild : Child → Except OsError Unit

/-- How many requests can wait in the queue. -/
def requestCapacity : Nat := 32

namespace System

/-- A supervisor that nothing has been asked of yet. -/
def fresh (settings : Settings) (collaborators : Collaborators) : System where
  settings := settings
  collaborators := collaborators
  machine := .idle
  published := .idle
  phase := .waiting
  session := none
  nextGeneration := 1
  shared := .fresh
  relays := []
  relayTasks := []
  servers := []
  exits := []
  requests := []
  handles := 1
  listening := []
  channels := []
  wrapperStarts := []
  sendings := []
  log := .empty settings.logSize
  pipes := []

/-- Whether a session runs, as callers are told. -/
def isRunning (s : System) : Bool := s.shared.event.isSome

def relay? (s : System) (number : Nat) : Option Relay := s.relays[number]?

/-- The relay of the session. -/
def currentRelay? (s : System) : Option Relay := s.shared.relay.bind s.relay?

def isOpen (s : System) (number : Nat) : Bool := (s.relay? number).any (·.isOpen)

/-- All who hold a socket of a relay. -/
def holders (s : System) (number : Nat) : List Holder :=
  (if s.isOpen number then [.relay] else []) ++
    (s.relayTasks.filter (·.relay == number)).map (.task ·.loop) ++
    (s.sendings.filterMap (·.holds? number)).map .message

/-- The sockets of a relay that are bound: one for each hold on it. -/
def socketsOf (s : System) (number : Nat) : List Socket :=
  match s.relay? number with
  | none => []
  | some relay => (s.holders number).flatMap relay.heldBy

/-- All sockets that are bound. -/
def sockets (s : System) : List Socket := (List.range s.relays.length).flatMap s.socketsOf

/-- A step that makes the state known. An illegal transition is logged, and made all the same. -/
def setState (s : System) (target : State) : System × List Effect :=
  let complaint : List Effect :=
    match s.machine.transition target with
    | .ok _ => []
    | .error e => [.logged (.illegalTransition e)]
  ({ s with machine := target, published := target }, complaint ++ [.published s.machine target])

theorem setState_eq (s : System) (target : State) :
    s.setState target =
      ({ s with machine := target, published := target },
        if s.machine.allows target then [.published s.machine target]
        else [.logged (.illegalTransition ⟨s.machine, target⟩), .published s.machine target]) := by
  by_cases legal : s.machine.allows target = true <;> simp [setState, State.transition, legal]

/-- Gives the result of a request to its caller. -/
def answer (s : System) (ticket : Nat) (result : Except SupervisorError Unit) :
    System × List Effect :=
  ({ s with listening := s.listening.filter (· != ticket) },
    [.answered ticket result (s.listening.contains ticket)])

/-- Does one thing after another. -/
def andThen (before : System × List Effect) (next : System → System × List Effect) :
    System × List Effect :=
  let (s, more) := next before.1
  (s, before.2 ++ more)

theorem andThen_eq (before : System × List Effect) (next : System → System × List Effect) :
    andThen before next = ((next before.1).1, before.2 ++ (next before.1).2) := rfl

def enter (s : System) (phase : Phase) : System := { s with phase }

def note (entry : LogEntry) (s : System) : System × List Effect := (s, [.logged entry])

end System
end RaceControl
