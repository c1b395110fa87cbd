import RaceControl.Host.Network
import RaceControl.Rehearsal.Clock
import RaceControl.Rehearsal.PluginLog
import RaceControl.Supervisor.Call

/-!
A supervisor on a small machine. Whatever is due is done before the clock goes on, and everything
that can be seen is recorded.
-/
namespace RaceControl.Rehearsal
open Host

/-- A server process with the pipes of its output. -/
structure ServerWatch where
  generation : Nat
  pid : Nat
  output : Nat
  errors : Nat
  deriving Repr, Inhabited

/-- What has been seen. -/
structure Record where
  log : List LogEntry
  transitions : List (State × State)
  answers : List (Nat × Except SupervisorError Unit)
  sendAnswers : List (Nat × Except SupervisorError Unit)
  launches : List RaceEvent
  written : Option TrackerOptions
  wrapperStarts : List WrapperStart
  wrapperFailures : List LogEntry
  wrapperStops : Nat
  deriving Inhabited

def Record.blank : Record := ⟨[], [], [], [], [], none, [], [], 0⟩

structure Scene where
  system : System
  machine : Machine
  network : Network
  /-- The tracker that is installed. -/
  tracker : Tracker
  store : OptionStore
  /-- Why the store cannot be read, if that is so. -/
  storeFault : Option String
  configFault : Option String
  wrapperFault : Option String
  plugins : PluginLog
  servers : List ServerWatch
  nextTicket : Nat
  record : Record
  deriving Inhabited

namespace Scene

def attempt (fault : Option String) : Except String Unit :=
  match fault with
  | some cause => .error cause
  | none => .ok ()

def surroundings (s : Scene) : Surroundings where
  workingDir := .ok (placeText s.machine.cwd)
  serverOptions :=
    match s.storeFault with
    | some cause => .error cause
    | none => s.store.loadServer
  trackerOptions := s.store.loadTracker
  tracker := s.tracker
  writeConfig := fun _ => attempt s.configFault
  network := s.network.view
  start := fun spec => (s.machine.start spec).map (·.1)
  killChild := fun _ => .ok ()

def send (s : Scene) (pid : Nat) (signal : Signal) : Scene :=
  match s.machine.send pid signal with
  | .ok machine => { s with machine }
  | .error _ => s

def onRecord (s : Scene) (change : Record → Record) : Scene := { s with record := change s.record }

/-- Lets an effect of the supervisor happen on the machine, and records it. -/
def witness (s : Scene) : Effect → Scene
  | .answered ticket result true =>
    s.onRecord fun r => { r with answers := r.answers ++ [(ticket, result)] }
  | .published source target =>
    s.onRecord fun r => { r with transitions := r.transitions ++ [(source, target)] }
  | .logged (.wrapperFailed cause) =>
    s.onRecord fun r => { r with wrapperFailures := r.wrapperFailures ++ [.wrapperFailed cause] }
  | .logged entry => s.onRecord fun r => { r with log := r.log ++ [entry] }
  | .launching event => s.onRecord fun r => { r with launches := r.launches ++ [event] }
  | .relayOpened _ => { s with network := s.network.afterBinding }
  | .serverStarted generation _ spec =>
    match s.machine.start spec with
    | .ok (pid, output, errors, machine) =>
      { s with machine, servers := s.servers ++ [⟨generation, pid, output, errors⟩] }
    | .error _ => s
  | .childStarted child spec =>
    match s.machine.start spec with
    | .ok (_, output, errors, machine) =>
      { s with machine, plugins := s.plugins.watch child.name [output, errors] }
    | .error _ => s
  | .endRequested _ pid => s.send pid .term
  | .serverKilled pid => s.send pid .kill
  | .exitQueued generation =>
    match s.servers.find? (·.generation == generation) with
    | some w => { s with machine := s.machine.reap w.pid }
    | none => s
  | .childKilled child => s.send child.pid .kill
  | .configWritten options => s.onRecord fun r => { r with written := some options }
  | .wrapperStarted start =>
    s.onRecord fun r => { r with wrapperStarts := r.wrapperStarts ++ [start] }
  | .wrapperStopped => s.onRecord fun r => { r with wrapperStops := r.wrapperStops + 1 }
  | .sendAnswered ticket result =>
    s.onRecord fun r => { r with sendAnswers := r.sendAnswers ++ [(ticket, result)] }
  | _ => s

/-- Gives the supervisor an input, if it is due. -/
def offer? (s : Scene) (i : Input) : Option Scene :=
  (s.system.step? i).map fun (system, effects) => effects.foldl witness { s with system }

def offer (s : Scene) (i : Input) : Scene := (s.offer? i).getD s

/-- Moves what a server has written into the log of the supervisor. -/
def captureOne (s : Scene) (w : ServerWatch) (stream : Stream) (conduit : Nat) : Scene :=
  let (bytes, machine) := s.machine.drain conduit
  let s := { s with machine }.offer (.wrote w.generation stream bytes)
  let reads := (bytes.length + captureSize - 1) / captureSize
  (List.range reads).foldl (fun s _ => s.offer (.capture w.generation stream captureSize)) s

def hasOutput (s : Scene) : Bool :=
  s.servers.any fun w =>
    [w.output, w.errors].any fun id => !((s.machine.conduit? id).map (·.bytes.isEmpty)).getD true

def captureAll (s : Scene) : Scene :=
  s.servers.foldl (fun s w =>
    (s.captureOne w .output w.output).captureOne w .errors w.errors) s

/-- The step of a waiter that is due, if there is one. The end of the process is seen before a
cancellation. -/
def waiterInput? (s : Scene) (w : ServerWatch) : Option Input :=
  match s.system.servers.find? (·.generation == w.generation) with
  | none => none
  | some server =>
    match s.machine.status? w.pid, server.waiter with
    | some status, .racing => some (.waiterStep w.generation (.ended (.ended status)))
    | some status, .draining => some (.waiterStep w.generation (.ended (.ended status)))
    | none, .racing =>
      if server.isCancelled then some (.waiterStep w.generation (.cancelled (.ok ()))) else none
    | _, _ => none

/-- What a forced kill of a process would give. -/
def killAnswer (m : Machine) (pid : Nat) : Except String Unit :=
  match m.send pid .kill with
  | .ok _ => .ok ()
  | .error reason => .error s!"failed to send SIGKILL: {reason}"

def pollInput (s : Scene) : Input :=
  let pid := match s.system.phase with
    | .stopping stop => stop.session.pid
    | _ => 0
  .poll s.machine.now (killAnswer s.machine pid)

/-- The next thing that is due at this moment: first on the machine, then in the tasks beside the
control loop, then in the loop itself. -/
def next? (s : Scene) : Option Scene :=
  match s.machine.step? with
  | some machine => some { s with machine }
  | none =>
    if s.hasOutput then some s.captureAll
    else if s.plugins.hasNews s.machine then
      let (machine, plugins) := s.plugins.collect s.machine
      some { s with machine, plugins }
    else
      match s.servers.findSome? s.waiterInput? with
      | some i => s.offer? i
      | none =>
        (s.system.relayTasks.findSome? fun task => s.offer? (.endTask task)).orElse fun () =>
        (s.offer? (.runWrapper 0 (attempt s.wrapperFault))).orElse fun () =>
        (s.offer? (.proceed s.surroundings)).orElse fun () =>
        s.offer? s.pollInput

/-- When the control loop has to look at its timers again. -/
def timers (s : Scene) : List Nat :=
  match s.system.phase with
  | .stopping stop =>
    [stop.since + s.system.settings.stopGrace, stop.since + s.system.settings.stopTimeout].filter
      fun t => s.machine.now < t
  | _ => []

def nextEvent? (s : Scene) : Option Nat := (s.machine.nextEvent?.toList ++ s.timers).min?

instance : Clocked Scene where
  now := fun s => s.machine.now
  advance := fun s t => { s with machine := s.machine.advance t }
  next? := next?
  nextEvent? := nextEvent?

end Scene
end RaceControl.Rehearsal
