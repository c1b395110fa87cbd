import RaceControl.Proofs.Supervisor.FailedLaunch

/-!
A launch on an idle supervisor goes as the first launch of a fresh one. What came before it shows in
the numbers that have been given out already, and in the sockets that tasks and messages of earlier
relays have not let go yet: to the launch these are sockets of somebody else.
-/
namespace RaceControl

/-- What has gone before: how many numbers of each kind have been given out, and the sockets that
are still bound. -/
structure Past where
  generations : Nat
  relays : Nat
  children : Nat
  sockets : List Socket

/-- The same surroundings for one who does not know of so many sockets that are taken. -/
def Surroundings.avoiding (env : Surroundings) (others : List Socket) : Surroundings :=
  { env with network := env.network.avoiding others }

section
variable (k : Nat) (past : Past)

def Session.shift (x : Session) : Session := { x with generation := x.generation + k }

def Server.shift (server : Server) : Server := { server with generation := server.generation + k }

def Pipe.shift (pipe : Pipe) : Pipe := { pipe with generation := pipe.generation + k }

def WrapperStart.shift (start : WrapperStart) : WrapperStart :=
  { start with generation := start.generation + k }

def Child.shift (child : Child) : Child := { child with serial := child.serial + k }

def Children.shift (c : Children) : Children := ⟨c.tracked.map (·.shift k), c.nextSerial + k⟩

def LaunchStage.later : LaunchStage → LaunchStage
  | .startServer dir options n => .startServer dir options (n + past.relays)
  | .adopt dir options n x => .adopt dir options (n + past.relays) (x.shift past.generations)
  | stage => stage

/-- The same launch, with later numbers. -/
def Launch.later (l : Launch) : Launch := { l with stage := l.stage.later past }

/-- What is seen of the same step of a launch, with later numbers. -/
def Effect.later : Effect → Effect
  | .relayOpened n => .relayOpened (n + past.relays)
  | .relayClosed n => .relayClosed (n + past.relays)
  | .serverStarted generation pid spec => .serverStarted (generation + past.generations) pid spec
  | .launched generation => .launched (generation + past.generations)
  | .childStarted child spec => .childStarted (child.shift past.children) spec
  | effect => effect

/-- An effect is repeated with later numbers. Another caller may hear an answer or not. -/
inductive Echo : Effect → Effect → Prop
  | same {effect} : Echo effect (effect.later past)
  | answered {ticket result isHeard heard} :
    Echo (.answered ticket result isHeard) (.answered ticket result heard)

end

/-- What has been added to one list has been added, with later numbers, to another. -/
def Adds {α : Type} (later : α → α) (before after others result : List α) : Prop :=
  ∃ added, after = before ++ added ∧ result = others ++ added.map later

lemma Adds.none {α : Type} {later : α → α} {before others : List α} :
    Adds later before before others others :=
  ⟨[], by simp⟩

lemma Adds.trans {α : Type} {later : α → α} {xs ys zs xs' ys' zs' : List α}
    (first : Adds later xs ys xs' ys') (second : Adds later ys zs ys' zs') :
    Adds later xs zs xs' zs' := by
  obtain ⟨one, rfl, rfl⟩ := first
  obtain ⟨two, rfl, rfl⟩ := second
  exact ⟨one ++ two, by simp⟩

namespace System
variable {past : Past} {f s t : System} {seen more : List Effect} {l : Launch} {env : Surroundings}

/-- A supervisor as a fresh one `f` is, but for what has gone before. What it remembers is
remembered of launches, or is what a fresh one does not know yet. -/
structure Resembles (past : Past) (f s : System) : Prop where
  settings : s.settings = f.settings
  collaborators : s.collaborators = f.collaborators
  machine : s.machine = f.machine
  published : s.published = f.published
  phase : (∃ l, f.phase = .launching l ∧ s.phase = .launching (l.later past)) ∨
    f.phase = .waiting ∧ s.phase = .waiting
  session : s.session = f.session.map (·.shift past.generations)
  nextGeneration : s.nextGeneration = f.nextGeneration + past.generations
  event : s.shared.event = f.shared.event
  lastEvent : s.shared.lastEvent = f.shared.lastEvent ∨ f.shared.lastEvent = none
  addressing : s.shared.addressing = f.shared.addressing ∨ f.shared.addressing = .unset
  relay : s.shared.relay = f.shared.relay.map (· + past.relays)
  children : s.shared.children = f.shared.children.shift past.children
  relays : ∃ old : List Relay, old.length = past.relays ∧ s.relays = old ++ f.relays
  /-- As long as a relay is open it has its tasks. -/
  tasks : ∀ n loop, f.isOpen n = true →
    (⟨n + past.relays, loop⟩ ∈ s.relayTasks ↔ ⟨n, loop⟩ ∈ f.relayTasks)

/-- Two steps that do the same, on a fresh supervisor and on one that resembles it. -/
structure Parallel (past : Past) (f s : System) (first second : System × List Effect) : Prop where
  after : Resembles past first.1 second.1
  shown : List.Forall₂ (Echo past) first.2 second.2
  servers : Adds (·.shift past.generations) f.servers first.1.servers s.servers second.1.servers
  pipes : Adds (·.shift past.generations) f.pipes first.1.pipes s.pipes second.1.pipes
  wrapperStarts : Adds (·.shift past.generations) f.wrapperStarts first.1.wrapperStarts
    s.wrapperStarts second.1.wrapperStarts

lemma Parallel.andThen {first second : System × List Effect}
    {next following : System → System × List Effect} (parallel : Parallel past f s first second)
    (after : Parallel past first.1 second.1 (next first.1) (following second.1)) :
    Parallel past f s (System.andThen first next) (System.andThen second following) where
  after := after.after
  shown := List.rel_append parallel.shown after.shown
  servers := parallel.servers.trans after.servers
  pipes := parallel.pipes.trans after.pipes
  wrapperStarts := parallel.wrapperStarts.trans after.wrapperStarts

/-- What is seen of a step is the same but for the numbers. -/
lemma echoes (more : List Effect) : List.Forall₂ (Echo past) more (more.map (·.later past)) := by
  induction more with
  | nil => exact .nil
  | cons effect rest ih => exact .cons .same ih

/-- A step that starts no server and asks for no wrapper. -/
lemma Parallel.of_shown {u v : System} {later : List Effect} (after : Resembles past u v)
    (shown : List.Forall₂ (Echo past) more later) (first : u.servers = f.servers)
    (servers : v.servers = s.servers) (pipes : u.pipes = f.pipes) (others : v.pipes = s.pipes)
    (starts : u.wrapperStarts = f.wrapperStarts) (wrappers : v.wrapperStarts = s.wrapperStarts) :
    Parallel past f s (u, more) (v, later) where
  after := after
  shown := shown
  servers := by
    rw [first, servers]
    exact .none
  pipes := by
    rw [pipes, others]
    exact .none
  wrapperStarts := by
    rw [starts, wrappers]
    exact .none

lemma Resembles.setState (like : Resembles past f s) (target : State) :
    Parallel past f s (f.setState target) (s.setState target) := by
  rw [setState_eq, setState_eq, like.machine]
  refine .of_shown ?_ ?_ rfl rfl rfl rfl rfl rfl
  · exact { like with machine := rfl, published := rfl }
  · split <;> exact echoes _

lemma Resembles.show (like : Resembles past f s) (more : List Effect) :
    Parallel past f s (f, more) (s, more.map (·.later past)) :=
  .of_shown like (echoes more) rfl rfl rfl rfl rfl rfl

lemma Resembles.onStage (like : Resembles past f s) (l : Launch) (stage : LaunchStage) :
    Resembles past (f.onStage l stage) (s.onStage (l.later past) (stage.later past)) :=
  { like with phase := .inl ⟨_, rfl, rfl⟩ }

lemma Resembles.goOn (like : Resembles past f s) (l : Launch) (stage : LaunchStage)
    (more : List Effect) :
    Parallel past f s (f.onStage l stage, more)
      (s.onStage (l.later past) (stage.later past), more.map (·.later past)) :=
  .of_shown (like.onStage l stage) (echoes more) rfl rfl rfl rfl rfl rfl

/-- A launch ends with its answer. -/
lemma Resembles.answer (like : Resembles past f s) (ticket : Nat)
    (result : Except SupervisorError Unit) :
    Parallel past f s ((f.enter .waiting).answer ticket result)
      ((s.enter .waiting).answer ticket result) :=
  .of_shown { like with phase := .inr ⟨rfl, rfl⟩ } (.cons .answered .nil) rfl rfl rfl rfl rfl rfl

lemma Resembles.failLaunch (like : Resembles past f s) (l : Launch) (cause : SupervisorError) :
    Parallel past f s (f.failLaunch l cause) (s.failLaunch (l.later past) cause) := by
  have idle := like.setState .idle
  exact (like.show [.logged (.startFailed cause)]).andThen
    (idle.andThen (idle.after.answer l.ticket (.error cause)))

lemma Resembles.relay? (like : Resembles past f s) (n : Nat) :
    s.relay? (n + past.relays) = f.relay? n := by
  obtain ⟨old, length, relays⟩ := like.relays
  rw [System.relay?, relays, ← length, List.getElem?_append_right (Nat.le_add_left ..),
    Nat.add_sub_cancel]
  rfl

lemma Resembles.closeRelay (like : Resembles past f s) (n : Nat) :
    Parallel past f s (f.closeRelay n) (s.closeRelay (n + past.relays)) := by
  rw [System.closeRelay, System.closeRelay, like.relay?]
  cases found : f.relay? n with
  | none => exact like.show []
  | some relay =>
    obtain ⟨old, length, relays⟩ := like.relays
    have closes : Refits f.relays (f.relays.set n relay.close) := .closes found
    refine .of_shown { like with relays := ⟨old, length, ?_⟩, tasks := fun m loop isOpen => ?_ }
      (echoes [.relayClosed n]) rfl rfl rfl rfl rfl rfl
    · rw [relays, ← length, List.set_append_right _ _ (Nat.le_add_left ..), Nat.add_sub_cancel]
    · refine like.tasks m loop (closes.any_isOpen ?_ isOpen)
      by_contra beyond
      have beyond : (f.relays.set n relay.close).length ≤ m := by simpa using beyond
      simp [System.isOpen, System.relay?, List.getElem?_eq_none beyond] at isOpen

lemma Resembles.loseServer (like : Resembles past f s) (l : Launch) (n : Nat) (cause : OsError) :
    Parallel past f s
      (System.andThen (f.closeRelay n) fun u =>
        u.failLaunch l (.process (.spawn u.settings.program cause)))
      (System.andThen (s.closeRelay (n + past.relays)) fun u =>
        u.failLaunch (l.later past) (.process (.spawn u.settings.program cause))) := by
  have closed := like.closeRelay n
  refine closed.andThen ?_
  rw [closed.after.settings]
  exact closed.after.failLaunch l _

lemma Resembles.length_relays (like : Resembles past f s) :
    s.relays.length = f.relays.length + past.relays := by
  obtain ⟨old, length, relays⟩ := like.relays
  rw [relays, List.length_append, length, Nat.add_comm]

/-- The first relay of a fresh supervisor, and the one that is opened in its stead. -/
lemma Resembles.addRelay (like : Resembles past f s) (relay : Relay) (first : f.relays = [])
    (idle : f.relayTasks = []) (known : ∀ task ∈ s.relayTasks, task.relay < s.relays.length) :
    Resembles past (f.addRelay relay) (s.addRelay relay) := by
  have length := like.length_relays
  rw [first, List.length_nil, Nat.zero_add] at length
  obtain ⟨old, size, relays⟩ := like.relays
  refine { like with relays := ⟨old, size, ?_⟩, tasks := fun n loop _ => ?_ }
  · simp [System.addRelay, relays]
  · have earlier : ⟨n + past.relays, loop⟩ ∉ s.relayTasks := by
      intro member
      have before := known _ member
      rw [length] at before
      exact absurd before (Nat.not_lt.mpr (Nat.le_add_left ..))
    simp [System.addRelay, first, idle, earlier, length, eq_comm]

lemma Resembles.addServer (like : Resembles past f s) (pid : Nat) (more : List Effect)
    (l : Launch) (stage : LaunchStage) :
    Parallel past f s ((f.addServer pid).onStage l stage, more)
      ((s.addServer pid).onStage (l.later past) (stage.later past), more.map (·.later past)) where
  after := by
    have added : Resembles past (f.addServer pid) (s.addServer pid) :=
      { like with
        nextGeneration := by simp only [System.addServer, like.nextGeneration, Nat.add_right_comm] }
    exact added.onStage l stage
  shown := echoes more
  servers := ⟨[⟨f.nextGeneration, pid, false, .racing⟩], rfl, by
    simp only [System.addServer, System.onStage, System.enter, like.nextGeneration]
    rfl⟩
  pipes := ⟨[⟨f.nextGeneration, .output, []⟩, ⟨f.nextGeneration, .errors, []⟩], rfl, by
    simp only [System.addServer, System.onStage, System.enter, like.nextGeneration]
    rfl⟩
  wrapperStarts := .none

/-- Starting a process depends on the serial numbers in nothing. -/
lemma start_shift (k : Nat) (c : Children) (cwd : Except OsError Path)
    (spawn : ProcessSpec → Except OsError Nat) (plugin : Plugin) (fallback : Path) :
    (c.shift k).start cwd spawn plugin fallback =
      ({ (c.start cwd spawn plugin fallback).1 with
          result := (c.start cwd spawn plugin fallback).1.result.map (Prod.map (·.shift k) id) },
        (c.start cwd spawn plugin fallback).2.shift k) := by
  unfold Children.start
  cases plugin.locate cwd with
  | error e => rfl
  | ok executable =>
    dsimp only
    cases spawn (plugin.spec executable fallback).1 with
    | error cause => rfl
    | ok pid =>
      simp [Children.shift, Child.shift, Except.map, Nat.add_right_comm]

lemma Resembles.startChild (like : Resembles past f s) (env : Surroundings) (plugin : Plugin)
    (fallback : Path) (failure : ProcessError → LogEntry) :
    Parallel past f s (f.startChild env plugin fallback failure)
      (s.startChild env plugin fallback failure) := by
  have warned (warnings : List LogEntry) :
      warnings.map Effect.logged = (warnings.map Effect.logged).map (·.later past) := by
    rw [List.map_map]
    rfl
  simp only [System.startChild, like.children, start_shift]
  refine .of_shown { like with children := rfl } ?_ rfl rfl rfl rfl rfl rfl
  refine List.rel_append ?_ ?_
  · nth_rewrite 2 [warned]
    exact echoes _
  · cases (f.shared.children.start env.workingDir env.start plugin fallback).1.result with
    | error e => exact echoes _
    | ok started => exact .cons .same .nil

lemma Resembles.startTracker (like : Resembles past f s) (env : Surroundings) (dir : Path)
    (options : ServerOptions) :
    Parallel past f s (f.startTracker env dir options) (s.startTracker env dir options) := by
  rw [System.startTracker, System.startTracker, like.collaborators]
  cases f.collaborators.hasTracker with
  | false => exact like.show []
  | true =>
    cases env.trackerOptions with
    | error e => exact like.show []
    | ok stored =>
      dsimp only
      split
      · cases env.tracker.prepare options stored env.writeConfig with
        | error e => exact like.show [.logged (.trackerRefused e)]
        | ok prepared =>
          exact (like.show [.configWritten prepared.2]).andThen (like.startChild ..)
      · exact like.show []

lemma Resembles.startCommand (like : Resembles past f s) (env : Surroundings) (dir : Path)
    (line : String) :
    Parallel past f s (f.startCommand env dir line) (s.startCommand env dir line) := by
  rw [System.startCommand, System.startCommand]
  cases Plugin.ofCommandLine? line with
  | none => exact like.show []
  | some plugin => exact like.startChild ..

lemma Resembles.requestWrapper (like : Resembles past f s) (l : Launch) (options : ServerOptions) :
    Parallel past f s (f.requestWrapper l options, [])
      (s.requestWrapper (l.later past) options, []) := by
  have session := like.session
  have hasWrapper : s.collaborators.hasWrapper = f.collaborators.hasWrapper :=
    congrArg _ like.collaborators
  rw [System.requestWrapper, System.requestWrapper, hasWrapper]
  split
  · cases first : f.session with
    | none =>
      rw [first] at session
      simp only [session, Option.map_none]
      exact like.show []
    | some x =>
      rw [first] at session
      simp only [session, Option.map_some]
      exact ⟨{ like with session := rfl }, .nil, .none, .none,
        [⟨x.generation, options.contentManagerWrapperPort, l.event⟩], rfl, rfl⟩
  · exact like.show []

/-- Before a supervisor opens its first relay nothing is bound; what is bound where it is repeated
has been left over. -/
lemma Resembles.sockets (like : Resembles past f s) (first : f.relays = []) :
    s.sockets = s.lingering past.relays ++ f.sockets := by
  have none : f.sockets = [] := by simp [System.sockets, first]
  have length := like.length_relays
  rw [first, List.length_nil, Nat.zero_add] at length
  rw [none, List.append_nil, System.sockets, length]
  rfl

/-- The opening of a relay fares alike if what is left over is avoided. -/
lemma Resembles.openRelay (like : Resembles past f s) (env : Surroundings) {dir : Path}
    {options : ServerOptions} (stage : l.stage = .openRelay dir options) (first : f.relays = [])
    (idle : f.relayTasks = []) (known : ∀ task ∈ s.relayTasks, task.relay < s.relays.length) :
    Parallel past f s (f.stepLaunch (env.avoiding (s.lingering past.relays)) l)
      (s.stepLaunch env (l.later past)) := by
  obtain ⟨ticket, event, addressing, _⟩ := l
  subst stage
  have length := like.length_relays
  simp only [System.stepLaunch, Launch.later, LaunchStage.later, like.sockets first,
    Relay.open?_append, Surroundings.avoiding]
  cases Relay.open? f.sockets (env.network.avoiding (s.lingering past.relays)) addressing with
  | error e => exact like.failLaunch ⟨ticket, event, addressing, .openRelay dir options⟩ (.relay e)
  | ok relay =>
    rw [length]
    exact .of_shown ((like.addRelay relay first idle known).onStage _ (.startServer dir options _))
      (echoes [.relayOpened _]) rfl rfl rfl rfl rfl rfl

/-- Every other step of a launch does the same on both. -/
lemma Resembles.stepLaunch (like : Resembles past f s) (env : Surroundings) (l : Launch)
    (other : ∀ dir options, l.stage ≠ .openRelay dir options) :
    Parallel past f s (f.stepLaunch env l) (s.stepLaunch env (l.later past)) := by
  obtain ⟨ticket, event, addressing, stage⟩ := l
  cases stage with
  | announce =>
    simp only [System.stepLaunch, Launch.later, LaunchStage.later]
    have launching := like.setState .launching
    exact launching.andThen (launching.after.goOn _ .readDirectory [.launching event])
  | readDirectory =>
    simp only [System.stepLaunch, Launch.later, LaunchStage.later]
    cases env.workingDir with
    | error cause => exact like.failLaunch _ _
    | ok dir => exact like.goOn _ (.readOptions dir) []
  | readOptions dir =>
    simp only [System.stepLaunch, Launch.later, LaunchStage.later]
    cases env.serverOptions with
    | error cause => exact like.failLaunch _ _
    | ok options =>
      have stored : Resembles past { f with shared := { f.shared with addressing } }
          { s with shared := { s.shared with addressing } } := { like with addressing := .inl rfl }
      exact .of_shown (stored.onStage _ (.openRelay dir options)) .nil rfl rfl rfl rfl rfl rfl
  | openRelay dir options => exact absurd rfl (other dir options)
  | startServer dir options n =>
    -- The generation is used up even if the server cannot be started.
    have server : s.settings.server = f.settings.server := congrArg _ like.settings
    simp only [System.stepLaunch, Launch.later, LaunchStage.later, server]
    cases env.start f.settings.server with
    | error cause =>
      have used : Resembles past { f with nextGeneration := f.nextGeneration + 1 }
          { s with nextGeneration := s.nextGeneration + 1 } :=
        { like with nextGeneration := by rw [like.nextGeneration, Nat.add_right_comm] }
      have failed := used.loseServer ⟨ticket, event, addressing, .startServer dir options n⟩ n cause
      exact ⟨failed.after, failed.shown, failed.servers, failed.pipes, failed.wrapperStarts⟩
    | ok pid =>
      rw [like.nextGeneration]
      exact like.addServer pid [.serverStarted f.nextGeneration pid f.settings.server]
        _ (.adopt dir options n ⟨f.nextGeneration, pid⟩)
  | adopt dir options n x =>
    have adopted : Resembles past
        { f with
          shared := { f.shared with event := some event, lastEvent := some event, relay := some n }
          session := some x }
        { s with
          shared :=
            { s.shared with
              event := some event, lastEvent := some event, relay := some (n + past.relays) }
          session := some (x.shift past.generations) } :=
      { like with session := rfl, event := rfl, lastEvent := .inl rfl, relay := rfl }
    exact .of_shown (adopted.onStage _ (.startWrapper dir options)) (echoes [.launched _])
      rfl rfl rfl rfl rfl rfl
  | startWrapper dir options =>
    have wrapped :=
      like.requestWrapper ⟨ticket, event, addressing, .startWrapper dir options⟩ options
    exact ⟨wrapped.after.onStage _ (.startTracker dir options), .nil, wrapped.servers,
      wrapped.pipes, wrapped.wrapperStarts⟩
  | startTracker dir options =>
    simp only [System.stepLaunch, Launch.later, LaunchStage.later]
    have started := like.startTracker env dir options
    refine started.andThen ?_
    rw [started.after.settings]
    exact started.after.goOn _ (.startPlugins dir _) []
  | startPlugins dir remaining =>
    cases remaining with
    | nil =>
      simp only [System.stepLaunch, Launch.later, LaunchStage.later, like.settings]
      split
      · exact like.goOn _ (.startCommands dir _) []
      · exact like.goOn _ (.startCommands dir _) [.logged .commandsDeprecated]
    | cons plugin rest =>
      simp only [System.stepLaunch, Launch.later, LaunchStage.later]
      have started := like.startChild env plugin dir (.commandFailed plugin.display)
      exact started.andThen (started.after.goOn _ (.startPlugins dir rest) [])
  | startCommands dir remaining =>
    cases remaining with
    | nil => exact like.goOn _ .finish []
    | cons line rest =>
      simp only [System.stepLaunch, Launch.later, LaunchStage.later]
      have started := like.startCommand env dir line
      exact started.andThen (started.after.goOn _ (.startCommands dir rest) [])
  | finish =>
    simp only [System.stepLaunch, Launch.later, LaunchStage.later]
    have active := like.setState .active
    exact active.andThen (active.after.answer ticket (.ok ()))

lemma Resembles.beside (like : Resembles past f s) (beside : s.Beside t more) :
    Resembles past f t where
  settings := beside.settings.trans like.settings
  collaborators := beside.collaborators.trans like.collaborators
  machine := beside.machine.trans like.machine
  published := beside.published.trans like.published
  phase := by simpa only [beside.phase] using like.phase
  session := beside.session.trans like.session
  nextGeneration := beside.nextGeneration.trans like.nextGeneration
  event := beside.event.trans like.event
  lastEvent := by simpa only [beside.lastEvent] using like.lastEvent
  addressing := by simpa only [beside.addressing] using like.addressing
  relay := beside.relay.trans like.relay
  children := beside.children.trans like.children
  relays := by simpa only [beside.relays] using like.relays
  tasks n loop isOpen := by
    rw [← like.tasks n loop isOpen]
    refine ⟨fun member => beside.eases.tasks.subset member, fun member => ?_⟩
    refine beside.eases.running _ member ?_
    rwa [System.isOpen, like.relay?]

/-- The numbers that have been given out, and the sockets that are bound. -/
def given (s : System) : Past :=
  ⟨s.nextGeneration - 1, s.relays.length, s.shared.children.nextSerial, s.sockets⟩

variable {start : System} {strides : List Stride} {settings : Settings}
  {collaborators : Collaborators}

/-- A session, its end, and the request for another one at the same ports. -/
def recurring (between : List Input) : List Input :=
  launchInputs ⟨1, .start ⟨"race"⟩ (.direct ":9000" 9001)⟩ ++ (exitInputs 1 0).dropLast ++ between ++
    [.submit ⟨2, .start ⟨"race"⟩ (.direct ":9000" 9001)⟩, .poll 0 (.ok ())] ++
      List.replicate 4 (.proceed obliging)

/-- The task of the first relay is in the way of the second one until it ends. -/
example :
    (∃ out ∈ (fresh .standard ⟨false, false⟩).steps? (recurring []),
      out.2.getLast? =
        some (.answered 2 (.error (.relay (.bind ⟨.loopback, 9001⟩ .addressInUse))) true)) ∧
    ∃ out ∈ (fresh .standard ⟨false, false⟩).steps? (recurring [.endTask ⟨0, .receiving⟩]),
      out.2.getLast? = some (.relayOpened 1) :=
  ⟨⟨_, rfl, rfl⟩, _, rfl, rfl⟩

end System
end RaceControl
