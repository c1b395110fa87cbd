import RaceControl.Supervisor.System

/-!
The steps of a launch. Up to the start of the server a launch can fail, and then leaves the
supervisor idle; after it the processes beside the server are started as far as they can be.
-/
namespace RaceControl.System

def onStage (s : System) (l : Launch) (stage : LaunchStage) : System :=
  s.enter (.launching { l with stage })

/-- Gives up a launch. -/
def failLaunch (s : System) (l : Launch) (cause : SupervisorError) : System × List Effect :=
  andThen (s.note (.startFailed cause)) fun s =>
  andThen (s.setState .idle) fun s =>
  (s.enter .waiting).answer l.ticket (.error cause)

/-- Records a relay that has been opened, whose loops run from now on. -/
def addRelay (s : System) (relay : Relay) : System :=
  { s with
    relays := s.relays ++ [relay]
    relayTasks := s.relayTasks ++ relay.loops.map (⟨s.relays.length, ·⟩) }

/-- Closes a relay by its number. -/
def closeRelay (s : System) (number : Nat) : System × List Effect :=
  match s.relay? number with
  | none => (s, [])
  | some relay => ({ s with relays := s.relays.set number relay.close }, [.relayClosed number])

/-- Starts one process beside the server. A failure is logged and nothing more. -/
def startChild (s : System) (env : Surroundings) (plugin : Plugin) (fallback : Path)
    (failure : ProcessError → LogEntry) : System × List Effect :=
  let (started, children) := s.shared.children.start env.workingDir env.start plugin fallback
  let outcome : Effect :=
    match started.result with
    | .ok (child, spec) => .childStarted child spec
    | .error e => .logged (failure e)
  ({ s with shared := { s.shared with children } }, started.warnings.map .logged ++ [outcome])

/-- The wrapper is asked to start if it is enabled and has a port. -/
def requestWrapper (s : System) (l : Launch) (options : ServerOptions) : System :=
  if s.collaborators.hasWrapper ∧ options.enableContentManagerWrapper
      ∧ options.contentManagerWrapperPort ≠ 0 then
    match s.session with
    | none => s
    | some session =>
      { s with wrapperStarts :=
          s.wrapperStarts ++ [⟨session.generation, options.contentManagerWrapperPort, l.event⟩] }
  else s

/-- The tracker is started if its options can be read, it is enabled and installed, and its
configuration has been written. -/
def startTracker (s : System) (env : Surroundings) (dir : Path) (options : ServerOptions) :
    System × List Effect :=
  match s.collaborators.hasTracker, env.trackerOptions with
  | true, .ok stored =>
    if stored.enabled ∧ env.tracker.installed then
      match env.tracker.prepare options stored env.writeConfig with
      | .error e => s.note (.trackerRefused e)
      | .ok (command, written) =>
        andThen (s, [.configWritten written]) fun s =>
        s.startChild env command dir .trackerFailed
    else (s, [])
  | _, _ => (s, [])

/-- Starts the process that an older command line names. A line that names none is skipped. -/
def startCommand (s : System) (env : Surroundings) (dir : Path) (line : String) :
    System × List Effect :=
  match Plugin.ofCommandLine? line with
  | none => (s, [])
  | some plugin => s.startChild env plugin dir (.commandFailed line)

/-- Records the server process that has been started, with the pipes for its output. -/
def addServer (s : System) (pid : Nat) : System :=
  { s with
    nextGeneration := s.nextGeneration + 1
    servers := s.servers ++ [⟨s.nextGeneration, pid, false, .racing⟩]
    pipes := s.pipes ++ [⟨s.nextGeneration, .output, []⟩, ⟨s.nextGeneration, .errors, []⟩] }

def stepLaunch (s : System) (env : Surroundings) (l : Launch) : System × List Effect :=
  match l.stage with
  | .announce =>
    andThen (s.setState .launching) fun s => (s.onStage l .readDirectory, [.launching l.event])
  | .readDirectory =>
    match env.workingDir with
    | .error cause => s.failLaunch l (.io cause)
    | .ok dir => (s.onStage l (.readOptions dir), [])
  | .readOptions dir =>
    match env.serverOptions with
    | .error cause => s.failLaunch l (.store cause)
    | .ok options =>
      let s := { s with shared := { s.shared with addressing := l.addressing } }
      (s.onStage l (.openRelay dir options), [])
  | .openRelay dir options =>
    match Relay.open? s.sockets env.network l.addressing with
    | .error e => s.failLaunch l (.relay e)
    | .ok relay =>
      let number := s.relays.length
      ((s.addRelay relay).onStage l (.startServer dir options number), [.relayOpened number])
  | .startServer dir options relay =>
    let generation := s.nextGeneration
    match env.start s.settings.server with
    | .error cause =>
      andThen ({ s with nextGeneration := generation + 1 }.closeRelay relay) fun s =>
      s.failLaunch l (.process (.spawn s.settings.program cause))
    | .ok pid =>
      ((s.addServer pid).onStage l (.adopt dir options relay ⟨generation, pid⟩),
        [.serverStarted generation pid s.settings.server])
  | .adopt dir options relay session =>
    let shared :=
      { s.shared with event := some l.event, lastEvent := some l.event, relay := some relay }
    ({ s with shared, session := some session }.onStage l (.startWrapper dir options),
      [.launched session.generation])
  | .startWrapper dir options =>
    ((s.requestWrapper l options).onStage l (.startTracker dir options), [])
  | .startTracker dir options =>
    andThen (s.startTracker env dir options) fun s =>
    (s.onStage l (.startPlugins dir s.settings.plugins), [])
  | .startPlugins dir [] =>
    let commands := s.settings.commands
    (s.onStage l (.startCommands dir commands),
      if commands.isEmpty then [] else [.logged .commandsDeprecated])
  | .startPlugins dir (plugin :: rest) =>
    andThen (s.startChild env plugin dir (.commandFailed plugin.display)) fun s =>
    (s.onStage l (.startPlugins dir rest), [])
  | .startCommands _ [] => (s.onStage l .finish, [])
  | .startCommands dir (line :: rest) =>
    andThen (s.startCommand env dir line) fun s => (s.onStage l (.startCommands dir rest), [])
  | .finish =>
    andThen (s.setState .active) fun s => (s.enter .waiting).answer l.ticket (.ok ())

end RaceControl.System
