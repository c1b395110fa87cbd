import RaceControl.Proofs.Supervisor.Coherence

/-!
What one step of a supervisor can do. A turn is a step of its control loop, with what the loop has
found, what it leaves and what it shows; all other steps leave alone what the loop works on.
-/
namespace RaceControl

/-- Whether a step is one that the control loop takes itself. -/
def Input.isOwn : Input → Bool
  | .proceed _ | .poll .. => true
  | _ => false

/-- Whether a step is one of the tasks and calls that no request comes from and no exit. -/
def Input.isDetached : Input → Bool
  | .proceed _ | .poll .. | .submit _ | .hangUp _ | .destroy | .waiterStep .. => false
  | _ => true

/-- Whether an effect puts an exit into its queue or gives an answer to a caller. -/
@[simp] def Effect.isDelivery : Effect → Bool
  | .exitQueued _ | .answered .. => true
  | _ => false

/-- Whether an effect comes of one of these tasks and calls. -/
@[simp] def Effect.isDetached : Effect → Bool
  | .wrapperStarted _ | .captured .. | .sent .. | .sendAnswered .. => true
  | _ => false

namespace System

/-- Where a launch fails: what is left of it, what that showed, and the cause that is answered. -/
inductive LaunchFailure (s : System) (env : Surroundings) (l : Launch) :
    System → List Effect → SupervisorError → Prop
  | directory {cause} : l.stage = .readDirectory → env.workingDir = .error cause →
    LaunchFailure s env l s [] (.io cause)
  | options {dir cause} : l.stage = .readOptions dir → env.serverOptions = .error cause →
    LaunchFailure s env l s [] (.store cause)
  | relay {dir options cause} : l.stage = .openRelay dir options →
    Relay.open? s.sockets env.network l.addressing = .error cause →
    LaunchFailure s env l s [] (.relay cause)
  | server {dir options n relay cause} : l.stage = .startServer dir options n →
    env.start s.settings.server = .error cause → s.relay? n = some relay →
    LaunchFailure s env l
      { s with
        nextGeneration := s.nextGeneration + 1
        relays := s.relays.set n relay.close }
      [.relayClosed n] (.process (.spawn s.settings.program cause))

/-- A step of a launch that starts a process beside the server, or passes on to the next kind. -/
inductive AuxiliaryStart (s : System) (env : Surroundings) (l : Launch) :
    LaunchStage → Children → List Effect → Prop
  | tracker {dir options} : l.stage = .startTracker dir options →
    AuxiliaryStart s env l (.startPlugins dir s.settings.plugins)
      (s.startTracker env dir options).1.shared.children (s.startTracker env dir options).2
  | plugin {dir plugin rest} : l.stage = .startPlugins dir (plugin :: rest) →
    AuxiliaryStart s env l (.startPlugins dir rest)
      (s.startChild env plugin dir (.commandFailed plugin.display)).1.shared.children
      (s.startChild env plugin dir (.commandFailed plugin.display)).2
  | lastPlugin {dir} : l.stage = .startPlugins dir [] →
    AuxiliaryStart s env l (.startCommands dir s.settings.commands) s.shared.children
      (if s.settings.commands.isEmpty then [] else [.logged .commandsDeprecated])
  | command {dir line rest} : l.stage = .startCommands dir (line :: rest) →
    AuxiliaryStart s env l (.startCommands dir rest)
      (s.startCommand env dir line).1.shared.children (s.startCommand env dir line).2
  | lastCommand {dir} : l.stage = .startCommands dir [] →
    AuxiliaryStart s env l .finish s.shared.children []

/-- What makes the loop stop a session, or go on at once where there is none: a request, or the end
of all handles. -/
inductive Occasion (s : System) : System → Purpose → List Effect → Prop
  | request {request requests} : s.requests = request :: requests →
    Occasion s { s with requests } request.purpose [.took request]
  | shutdown : s.requests = [] → s.handles = 0 → Occasion s s .shutdown []

/-- How the loop comes to look at an exit, and what it does afterwards if the exit is that of the
current session. -/
inductive Attends (s : System) : Resumption → Prop
  | waiting : s.phase = .waiting → Attends s .wait
  | stopping {stop} : s.phase = .stopping stop → Attends s (.finishStop stop.purpose)

/-- One step of the control loop. -/
inductive Turn (s : System) : System → List Effect → Prop
  | announce {l} : s.phase = .launching l → l.stage = .announce →
    Turn s
      { s with
        machine := .launching, published := .launching
        phase := .launching { l with stage := .readDirectory } }
      [.published .idle .launching, .launching l.event]
  | findDirectory {env : Surroundings} {l dir} : s.phase = .launching l →
    l.stage = .readDirectory → env.workingDir = .ok dir →
    Turn s { s with phase := .launching { l with stage := .readOptions dir } } []
  | loadOptions {env : Surroundings} {l dir options} : s.phase = .launching l →
    l.stage = .readOptions dir → env.serverOptions = .ok options →
    Turn s
      { s with
        shared := { s.shared with addressing := l.addressing }
        phase := .launching { l with stage := .openRelay dir options } } []
  | openRelay {env : Surroundings} {l dir options relay} : s.phase = .launching l →
    l.stage = .openRelay dir options →
    Relay.open? s.sockets env.network l.addressing = .ok relay →
    Turn s
      { s with
        relays := s.relays ++ [relay]
        relayTasks := s.relayTasks ++ relay.loops.map (⟨s.relays.length, ·⟩)
        phase := .launching { l with stage := .startServer dir options s.relays.length } }
      [.relayOpened s.relays.length]
  | startServer {env : Surroundings} {l dir options n pid} : s.phase = .launching l →
    l.stage = .startServer dir options n → env.start s.settings.server = .ok pid →
    Turn s
      { s.addServer pid with
        phase := .launching { l with stage := .adopt dir options n ⟨s.nextGeneration, pid⟩ } }
      [.serverStarted s.nextGeneration pid s.settings.server]
  | fail {env l u cleanup cause} : s.phase = .launching l → LaunchFailure s env l u cleanup cause →
    Turn s
      { u with
        machine := .idle, published := .idle, phase := .waiting
        listening := s.listening.filter (· != l.ticket) }
      (cleanup ++ [.logged (.startFailed cause), .published .launching .idle,
        .answered l.ticket (.error cause) (s.listening.contains l.ticket)])
  | adopt {l dir options n x} : s.phase = .launching l → l.stage = .adopt dir options n x →
    Turn s
      { s with
        shared :=
          { s.shared with event := some l.event, lastEvent := some l.event, relay := some n }
        session := some x
        phase := .launching { l with stage := .startWrapper dir options } }
      [.launched x.generation]
  | requestWrapper {l dir options} : s.phase = .launching l → l.stage = .startWrapper dir options →
    Turn s
      { s with
        wrapperStarts := (s.requestWrapper l options).wrapperStarts
        phase := .launching { l with stage := .startTracker dir options } } []
  | auxiliary {env l stage children more} : s.phase = .launching l →
    AuxiliaryStart s env l stage children more →
    Turn s
      { s with
        shared := { s.shared with children }
        phase := .launching { l with stage } } more
  | activate {l} : s.phase = .launching l → l.stage = .finish →
    Turn s
      { s with
        machine := .active, published := .active, phase := .waiting
        listening := s.listening.filter (· != l.ticket) }
      [.published .launching .active,
        .answered l.ticket (.ok ()) (s.listening.contains l.ticket)]
  | beginVacant {u purpose before} : s.phase = .waiting → s.exits = [] → s.session = none →
    Occasion s u purpose before →
    Turn s (u.finishStop purpose).1 (before ++ (u.finishStop purpose).2)
  | beginStop {u purpose before x} (now) : s.phase = .waiting → s.exits = [] → s.session = some x →
    Occasion s u purpose before →
    Turn s
      { u with
        machine := .stopping, published := .stopping
        servers := s.servers.map fun server =>
          if server.generation = x.generation then { server with isCancelled := true } else server
        phase := .stopping ⟨purpose, x, now, false⟩ }
      (before ++ .cancelled x.generation ::
        if s.machine = .active then [.published .active .stopping] else [])
  | exit {exit exits next x} : Attends s next → s.exits = exit :: exits → s.session = some x →
    x.generation = exit.generation →
    Turn s
      { s with
        machine := .tearingDown, published := .tearingDown
        exits, phase := .tearingDown .forget next }
      (exitWarning exit ++ [.published s.machine .tearingDown, .exitHandled exit.generation false])
  | staleExit {exit exits next} : Attends s next → s.exits = exit :: exits →
    (∀ x, s.session = some x → x.generation ≠ exit.generation) →
    Turn s { s with exits } (exitWarning exit ++ [.exitHandled exit.generation true])
  | kill {stop now kill} : s.phase = .stopping stop → s.exits = [] → stop.killed = false →
    stop.since + s.settings.stopGrace ≤ now →
    Turn s { s with phase := .stopping { stop with killed := true } }
      (forceKill stop.session.pid kill)
  | giveUp {stop ticket now} : s.phase = .stopping stop → s.exits = [] →
    stop.since + s.settings.stopTimeout ≤ now →
    (stop.killed = true ∨ now < stop.since + s.settings.stopGrace) →
    (stop.purpose = .stop ticket ∨ ∃ e a, stop.purpose = .relaunch ticket e a) →
    Turn s { s with phase := .waiting, listening := s.listening.filter (· != ticket) }
      [.logged (.stopFailed .stopTimeout),
        .answered ticket (.error .stopTimeout) (s.listening.contains ticket)]
  | leave {stop now n relay} : s.phase = .stopping stop → s.exits = [] →
    stop.since + s.settings.stopTimeout ≤ now →
    (stop.killed = true ∨ now < stop.since + s.settings.stopGrace) →
    stop.purpose = .shutdown → s.shared.relay = some n → s.relay? n = some relay →
    Turn s
      { s with
        relays := s.relays.set n relay.close
        phase := .finished }
      [.logged (.stopFailed .stopTimeout), .logged (.shutdownFailed .stopTimeout),
        .relayClosed n, .finished]
  | forget {next} : s.phase = .tearingDown .forget next →
    Turn s
      { s with
        shared := { s.shared with event := none, relay := none }
        phase := .tearingDown (.closeRelay s.shared.relay) next } []
  | closeRelay {n relay next} : s.phase = .tearingDown (.closeRelay (some n)) next →
    s.relay? n = some relay →
    Turn s
      { s with
        relays := s.relays.set n relay.close
        phase := .tearingDown .stopWrapper next } [.relayClosed n]
  | stopWrapper {next} : s.phase = .tearingDown .stopWrapper next →
    Turn s { s with phase := .tearingDown .killChildren next }
      (if s.collaborators.hasWrapper then [.wrapperStopped] else [])
  | killChildren {next} (env) : s.phase = .tearingDown .killChildren next →
    Turn s
      { s with
        shared := { s.shared with children := s.shared.children.forget }
        phase := .tearingDown .prune next }
      (.killing s.shared.children.tracked ::
        s.shared.children.tracked.flatMap (killChild env))
  | prune {next} : s.phase = .tearingDown .prune next →
    Turn s
      { s with
        shared := { s.shared with waiters := s.shared.waiters.filter s.isOpenChannel }
        phase := .tearingDown (.signal (s.shared.waiters.filter s.isOpenChannel)) next }
      [.signalling (s.shared.waiters.filter s.isOpenChannel)]
  | signal {number rest next} : s.phase = .tearingDown (.signal (number :: rest)) next →
    Turn s
      { s with
        channels := (s.signal number).1.channels
        phase := .tearingDown (.signal rest) next } (s.signal number).2
  | signalled {next} : s.phase = .tearingDown (.signal []) next →
    Turn s { s with phase := .tearingDown .finish next } []
  | tearDown {x next} : s.phase = .tearingDown .finish next → s.session = some x →
    Turn s
      ({ s with machine := .idle, published := .idle, session := none }.resume next).1
      (.published .tearingDown .idle :: .tornDown x.generation ::
        ({ s with machine := .idle, published := .idle, session := none }.resume next).2)

/-- What is seen of the tasks beside the control loop, and of calls that come after its end. -/
inductive Aside : Effect → Prop
  | endRequested {generation pid} : Aside (.endRequested generation pid)
  | endRequestFailed {reason} : Aside (.logged (.endRequestFailed reason))
  | exitQueued {generation} : Aside (.exitQueued generation)
  | wrapperStarted {start} : Aside (.wrapperStarted start)
  | wrapperFailed {cause} : Aside (.logged (.wrapperFailed cause))
  | captured {generation stream bytes} : Aside (.captured generation stream bytes)
  | sent {ticket datagram} : Aside (.sent ticket datagram)
  | sendAnswered {ticket result} : Aside (.sendAnswered ticket result)
  | refused {ticket} : Aside (.answered ticket (.error .loopClosed) true)

/-- What becomes of the holds on sockets beside the loop: tasks of closed relays end, and no message
takes hold of the socket of a closed one. -/
structure Eases (s t : System) : Prop where
  tasks : t.relayTasks.Sublist s.relayTasks
  running : ∀ task ∈ s.relayTasks, s.isOpen task.relay = true → task ∈ t.relayTasks
  messages : ∀ n, s.isOpen n = false →
    (t.sendings.filterMap (·.holds? n)).Sublist (s.sendings.filterMap (·.holds? n))

/-- A step beside the control loop. -/
structure Beside (s t : System) (more : List Effect) : Prop where
  settings : t.settings = s.settings
  collaborators : t.collaborators = s.collaborators
  machine : t.machine = s.machine
  published : t.published = s.published
  phase : t.phase = s.phase
  session : t.session = s.session
  nextGeneration : t.nextGeneration = s.nextGeneration
  event : t.shared.event = s.shared.event
  lastEvent : t.shared.lastEvent = s.shared.lastEvent
  addressing : t.shared.addressing = s.shared.addressing
  relay : t.shared.relay = s.shared.relay
  children : t.shared.children = s.shared.children
  relays : t.relays = s.relays
  eases : Eases s t
  handles : s.handles = 0 → t.handles = 0
  aside : ∀ effect ∈ more, Aside effect
  refused : ∀ ticket, .answered ticket (.error .loopClosed) true ∈ more → s.phase.isOver = true

/-- A step beside the control loop that leaves the queues of its callers and of the waiters
alone. -/
structure Apart (s t : System) (more : List Effect) : Prop extends Beside s t more where
  requests : t.requests = s.requests
  listening : t.listening = s.listening
  servers : t.servers = s.servers
  exits : t.exits = s.exits
  quiet : ∀ effect ∈ more, effect.isDelivery = false

/-- A step of the tasks and calls from which no request comes and no exit. -/
inductive Detached (s : System) : Input → System → List Effect → Prop
  | cloneHandle : s.handles ≠ 0 → Detached s .cloneHandle { s with handles := s.handles + 1 } []
  | dropHandle : s.handles ≠ 0 → Detached s .dropHandle { s with handles := s.handles - 1 } []
  | runWrapper {number result start} : s.wrapperStarts[number]? = some start →
    Detached s (.runWrapper number result)
      { s with wrapperStarts := s.wrapperStarts.eraseIdx number }
      (.wrapperStarted start :: wrapperComplaint result)
  | openChannel {capacity} : s.phase.holdsLock = false →
    Detached s (.openChannel capacity)
      { s with
        channels := s.channels ++ [⟨capacity, 0, false⟩]
        shared := { s.shared with waiters := s.shared.waiters ++ [s.channels.length] } } []
  | receiveSignal {number} :
    Detached s (.receiveSignal number)
      (s.onChannel number fun c => { c with queued := c.queued - 1 }) []
  | drainChannel {number} :
    Detached s (.drainChannel number) (s.onChannel number fun c => { c with queued := 0 }) []
  | closeChannel {number} :
    Detached s (.closeChannel number) (s.onChannel number fun c => { c with isClosed := true }) []
  | wrote {generation stream bytes pipe} : s.pipe? generation stream = some pipe →
    Detached s (.wrote generation stream bytes)
      (s.setPipe { pipe with unread := pipe.unread ++ bytes }) []
  | capture {generation stream count pipe bytes} : s.pipe? generation stream = some pipe →
    pipe.unread.take (min count captureSize) = bytes → bytes ≠ [] →
    Detached s (.capture generation stream count)
      { s.setPipe { pipe with unread := pipe.unread.drop bytes.length } with
        log := s.log.append bytes }
      [.captured generation stream bytes]
  | unconnected {ticket payload} : s.phase.holdsLock = false → s.shared.relay = none →
    Detached s (.beginSend ticket payload) s [.sendAnswered ticket (.error .noOpenConnection)]
  | beginSend {ticket payload n} : s.phase.holdsLock = false → s.shared.relay = some n →
    Detached s (.beginSend ticket payload)
      { s with sendings := s.sendings ++ [⟨ticket, payload, .found n⟩] } []
  | holdSocket {ticket sending n relay} : s.sending? ticket = some sending →
    sending.stage = .found n → s.relay? n = some relay → relay.isOpen = true →
    Detached s (.holdSocket ticket)
      { s.dropSending ticket with
        sendings := (s.dropSending ticket).sendings ++
          [{ sending with
            stage := .ready n ⟨relay.socket.address, relay.server, sending.payload⟩ }] }
      []
  | findClosed {ticket sending n relay} : s.sending? ticket = some sending →
    sending.stage = .found n → s.relay? n = some relay → relay.isOpen = false →
    Detached s (.holdSocket ticket) (s.dropSending ticket)
      [.sendAnswered ticket (.error .noOpenConnection)]
  | transmit {ticket sending n datagram} (result) : s.sending? ticket = some sending →
    sending.stage = .ready n datagram →
    Detached s (.transmit ticket result) (s.dropSending ticket)
      [.sent ticket datagram, .sendAnswered ticket (sendResult result)]
  | endTask {task} : task ∈ s.relayTasks → s.isOpen task.relay = false →
    Detached s (.endTask task) { s with relayTasks := s.relayTasks.erase task } []

/-- One step of a supervisor, with what it does to the queues around the control loop. -/
inductive Move (s : System) : Input → System → List Effect → Prop
  | turn {i t more} : i.isOwn = true → Turn s t more → Move s i t more
  | enter {request} : s.handles ≠ 0 → s.phase.isOver = false →
    Move s (.submit request)
      { s with
        requests := s.requests ++ [request]
        listening := s.listening ++ [request.ticket] } []
  | refuse {request} : s.handles ≠ 0 → s.phase.isOver = true →
    Move s (.submit request) s [.answered request.ticket (.error .loopClosed) true]
  | hangUp {ticket} :
    Move s (.hangUp ticket) { s with listening := s.listening.filter (· != ticket) } []
  /-- A waiter sees that its server has been cancelled. -/
  | notice {server outcome more} : server ∈ s.servers → server.waiter = .racing →
    Beside s (s.setWaiter server.generation .draining) more →
    (∀ effect ∈ more, effect.isDelivery = false) →
    (∀ effect ∈ more, effect.isDetached = false) →
    Move s (.waiterStep server.generation (.cancelled outcome))
      (s.setWaiter server.generation .draining) more
  /-- A waiter reports the end of its server. -/
  | report {server result} : server ∈ s.servers → server.waiter ≠ .reported →
    Move s (.waiterStep server.generation (.ended result))
      { s.setWaiter server.generation .reported with
        exits := s.exits ++ [⟨server.generation, result⟩] }
      [.exitQueued server.generation]
  | apart {i t more} : i.isDetached = true → Apart s t more → Move s i t more
  | destroy : s.phase.isOver = false → Move s .destroy s.destroy.1 s.destroy.2

end System
end RaceControl
