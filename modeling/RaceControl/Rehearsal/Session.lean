import RaceControl.Rehearsal.Scene

/-!
The calls of a supervisor's users, each waited for.
-/
namespace RaceControl.Rehearsal
open Host

/-- The services that are installed. -/
structure Installations where
  hasWrapper : Bool
  tracker : Option Tracker
  deriving Inhabited

def Installations.collaborators (i : Installations) : Collaborators :=
  ⟨i.hasWrapper, i.tracker.isSome⟩

/-- What the surroundings of a supervisor are at the beginning. -/
structure Setting where
  settings : Settings
  collaborators : Installations
  store : OptionStore
  storeFault : Option String
  configFault : Option String
  wrapperFault : Option String
  cwd : List String
  network : Network
  deriving Inhabited

namespace Scene

def ofSetting (t : Setting) : Scene where
  system := .fresh t.settings t.collaborators.collaborators
  machine := .boot t.cwd
  network := t.network
  tracker := t.collaborators.tracker.getD default
  store := t.store
  storeFault := t.storeFault
  configFault := t.configFault
  wrapperFault := t.wrapperFault
  plugins := .none
  servers := []
  nextTicket := 0
  record := .blank

def answer? (s : Scene) (ticket : Nat) : Option (Except SupervisorError Unit) :=
  s.record.answers.lookup ticket

/-- Puts a demand into the queue. -/
def submit (s : Scene) (demand : Demand) : Nat × Scene :=
  (s.nextTicket,
    { s with nextTicket := s.nextTicket + 1 }.offer (.submit ⟨s.nextTicket, demand⟩))

/-- The result of a demand, once it is there. -/
def result (s : Scene) (ticket : Nat) : Except SupervisorError Unit × Scene :=
  let s := complete s fun s => (s.answer? ticket).isSome
  ((s.answer? ticket).getD (.error .loopClosed), s)

def request (s : Scene) (demand : Demand) : Except SupervisorError Unit × Scene :=
  let (ticket, s) := s.submit demand
  s.result ticket

def call (s : Scene) (c : Call) : Except SupervisorError Unit × Scene :=
  match c.plan s.system.isRunning s.system.shared with
  | .error e => (.error e, s)
  | .ok plan =>
    let (result, s) := s.request plan.first
    match Call.following plan.second result with
    | .inl second => s.request second
    | .inr result => (result, s)

/-- Queues several demands before the control loop sees any of them. -/
def callAll (s : Scene) (demands : List Demand) : List (Except SupervisorError Unit) × Scene :=
  let (tickets, s) := demands.foldl (fun (tickets, s) demand =>
    let (ticket, s) := s.submit demand
    (tickets ++ [ticket], s)) ([], s)
  tickets.foldl (fun (results, s) ticket =>
    let (result, s) := s.result ticket
    (results ++ [result], s)) ([], s)

def waitIdle (s : Scene) : Except SupervisorError Unit × Scene :=
  let s := await s fun s => (s.system.waitIdle?).isSome
  ((s.system.waitIdle?).getD (.ok ()), s)

/-- Whether a text holds another. -/
def holds (text needle : List Char) : Bool :=
  match text with
  | [] => needle.isEmpty
  | _ :: rest => needle.isPrefixOf text || holds rest needle

def waitLog (s : Scene) (needle : String) : String × Scene :=
  let s := await s fun s => holds (Utf8.decodeLossy s.system.log.bytes) needle.toList
  (s.system.log.text, s)

/-- Sends a message to the server of the session. -/
def sendMessage (s : Scene) (payload : List UInt8) : Except SupervisorError Unit × Scene :=
  let ticket := s.nextTicket
  let s := { s with nextTicket := ticket + 1 }
  let s := (s.offer (.beginSend ticket payload)).offer (.holdSocket ticket)
  let s := s.offer (.transmit ticket s.network.transmit)
  ((s.record.sendAnswers.lookup ticket).getD (.error .noOpenConnection), s)

/-- Takes the forwarded lines once there are so many. -/
def takeOutput (s : Scene) (lines : Nat) : List String × Scene :=
  let s := await s fun s => lines ≤ s.plugins.lines.length
  (sortLines s.plugins.lines, { s with plugins := { s.plugins with lines := [] } })

/-- Registers a channel and gives its number. -/
def register (s : Scene) (capacity : Nat) : Nat × Scene :=
  (s.system.channels.length, s.offer (.openChannel capacity))

/-- The signals on every channel that is open, which are taken away. -/
def takeSignals (s : Scene) : List (Option Nat) × Scene :=
  let counts := s.system.channels.map fun c => if c.isClosed then none else some c.queued
  (counts, (List.range counts.length).foldl (fun s n => s.offer (.drainChannel n)) s)

def waitWrapper (s : Scene) (starts : Nat) : Scene :=
  await s fun s => starts ≤ s.record.wrapperStarts.length

/-- Lets go of the handle and waits for the end of the control loop. -/
def drop (s : Scene) : Scene :=
  complete (s.offer .dropHandle) fun s => s.system.phase.isOver

/-- Takes what has been logged and which transitions have been made. -/
def takeNews (s : Scene) : List LogEntry × List (State × State) × Scene :=
  (s.record.log, s.record.transitions,
    s.onRecord fun r => { r with log := [], transitions := [] })

end Scene
end RaceControl.Rehearsal
