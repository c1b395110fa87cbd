import RaceControl.Supervisor.Launch

/-!
The steps of a teardown, and of a stop before it. A session is torn down when the exit of its
server reaches the control loop, whether or not someone has asked for a stop.
-/
namespace RaceControl.System

/-- An end other than a success is warned of. -/
def exitWarning (exit : Exit) : List Effect :=
  match exit.result with
  | .ended status => if status.isSuccess then [] else [.logged (.serverEnded exit.result)]
  | .failed _ => [.logged (.serverEnded exit.result)]

/-- Deals with an exit. The exit of the current session begins its teardown; any other is of no
consequence. -/
def handleExit (s : System) (exit : Exit) (next : Resumption) : System × List Effect :=
  andThen (s, exitWarning exit) fun s =>
  match s.session with
  | some session =>
    if session.generation = exit.generation then
      andThen (s.setState .tearingDown) fun s =>
      (s.enter (.tearingDown .forget next), [.exitHandled exit.generation false])
    else (s, [.exitHandled exit.generation true])
  | none => (s, [.exitHandled exit.generation true])

/-- Goes on once a stop has succeeded, or had nothing to do. -/
def finishStop (s : System) : Purpose → System × List Effect
  | .stop ticket => (s.enter .waiting).answer ticket (.ok ())
  | .relaunch ticket event addressing =>
    (s.enter (.launching ⟨ticket, event, addressing, .announce⟩), [])
  | .shutdown => (s.enter .finished, [.finished])

/-- Goes on once a stop has run out of time. The session stays as it is. -/
def abandonStop (s : System) : Purpose → System × List Effect
  | .stop ticket => (s.enter .waiting).answer ticket (.error .stopTimeout)
  | .relaunch ticket _ _ => (s.enter .waiting).answer ticket (.error .stopTimeout)
  | .shutdown =>
    andThen (s.note (.shutdownFailed .stopTimeout)) fun s =>
    let closed := match s.shared.relay with
      | some relay => s.closeRelay relay
      | none => (s, [])
    andThen closed fun s =>
    (s.enter .finished, [.finished])

def resume (s : System) : Resumption → System × List Effect
  | .wait => (s.enter .waiting, [])
  | .finishStop purpose => s.finishStop purpose
  | .keepStopping stop => (s.enter (.stopping stop), [])

/-- Kills one process beside the server. -/
def killChild (env : Surroundings) (child : Child) : List Effect :=
  match env.killChild child with
  | .ok () => [.childKilled child]
  | .error cause => [.childKilled child, .logged (.childNotKilled child.name child.pid cause)]

/-- Kills every process beside the server. A kill that fails does not keep the others from being
tried. -/
def killChildren (s : System) (env : Surroundings) : System × List Effect :=
  ({ s with shared := { s.shared with children := s.shared.children.forget } },
    .killing s.shared.children.tracked :: s.shared.children.tracked.flatMap (killChild env))

def isOpenChannel (s : System) (number : Nat) : Bool :=
  match s.channels[number]? with
  | some channel => !channel.isClosed
  | none => false

/-- Appends one signal to a channel, unless it is full or closed. -/
def signal (s : System) (number : Nat) : System × List Effect :=
  match s.channels[number]? with
  | none => (s, [])
  | some channel =>
    ({ s with channels := s.channels.set number channel.trySend },
      if channel.trySend = channel then [] else [.signalled number])

def stepTeardown (s : System) (env : Surroundings) (stage : TeardownStage) (next : Resumption) :
    System × List Effect :=
  let on (s : System) (stage : TeardownStage) := s.enter (.tearingDown stage next)
  match stage with
  | .forget =>
    (on { s with shared := { s.shared with event := none, relay := none } }
      (.closeRelay s.shared.relay), [])
  | .closeRelay none => (on s .stopWrapper, [])
  | .closeRelay (some relay) =>
    andThen (s.closeRelay relay) fun s => (on s .stopWrapper, [])
  | .stopWrapper =>
    (on s .killChildren, if s.collaborators.hasWrapper then [.wrapperStopped] else [])
  | .killChildren => andThen (s.killChildren env) fun s => (on s .prune, [])
  | .prune =>
    let waiters := s.shared.waiters.filter s.isOpenChannel
    (on { s with shared := { s.shared with waiters } } (.signal waiters), [.signalling waiters])
  | .signal (number :: rest) => andThen (s.signal number) fun s => (on s (.signal rest), [])
  | .signal [] => (on s .finish, [])
  | .finish =>
    let generation := (s.session.map (·.generation)).getD 0
    andThen ({ s with session := none }.setState .idle) fun s =>
    andThen (s, [.tornDown generation]) fun s => s.resume next

/-- Begins to stop the session: its waiter is cancelled, and an active session is stopping from now
on. Without a session there is nothing to do. -/
def beginStop (s : System) (now : Nat) (purpose : Purpose) : System × List Effect :=
  match s.session with
  | none => s.finishStop purpose
  | some session =>
    let servers := s.servers.map fun server =>
      if server.generation = session.generation then { server with isCancelled := true } else server
    andThen ({ s with servers }, [.cancelled session.generation]) fun s =>
    andThen (if s.machine = .active then s.setState .stopping else (s, [])) fun s =>
    (s.enter (.stopping ⟨purpose, session, now, false⟩), [])

/-- The attempt to kill a server, whose answer is `kill`. The id zero stands for none. -/
def forceKill (pid : Nat) (kill : Except String Unit) : List Effect :=
  if pid = 0 then []
  else
    .serverKilled pid ::
      match kill with
      | .ok () => []
      | .error reason => [.logged (.killFailed (.termination pid reason))]

/-- Looks at what a stop waits for: an exit first, then the grace period, then the time limit. -/
def pollStop (s : System) (now : Nat) (kill : Except String Unit) (stop : Stop) :
    Option (System × List Effect) :=
  match s.exits with
  | exit :: exits =>
    let next : Resumption :=
      if exit.generation = stop.session.generation then .finishStop stop.purpose
      else .keepStopping stop
    some ({ s with exits }.handleExit exit next)
  | [] =>
    if ¬stop.killed ∧ stop.since + s.settings.stopGrace ≤ now then
      some (s.enter (.stopping { stop with killed := true }), forceKill stop.session.pid kill)
    else if stop.since + s.settings.stopTimeout ≤ now then
      some (andThen (s.note (.stopFailed .stopTimeout)) fun s => s.abandonStop stop.purpose)
    else none

end RaceControl.System
