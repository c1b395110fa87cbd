import RaceControl.Proofs.Supervisor.Turn

/-!
Every step of a coherent supervisor is a turn of its control loop or goes beside it. The functions
that take the steps are opened here, and nowhere else.
-/
namespace RaceControl.System
variable {s t u : System} {more later : List Effect} {env : Surroundings} {l : Launch}

lemma isOpen_of_relays (same : t.relays = s.relays) (n : Nat) : t.isOpen n = s.isOpen n := by
  rw [isOpen, relay?, same]
  rfl

lemma Eases.of_same (tasks : t.relayTasks = s.relayTasks) (sendings : t.sendings = s.sendings) :
    Eases s t where
  tasks := tasks ▸ List.Sublist.refl _
  running _ member _ := tasks ▸ member
  messages _ _ := sendings ▸ List.Sublist.refl _

lemma Eases.trans (first : Eases s t) (second : Eases t u) (same : t.relays = s.relays) :
    Eases s u where
  tasks := second.tasks.trans first.tasks
  running task member isOpen :=
    second.running task (first.running task member isOpen) (isOpen_of_relays same _ ▸ isOpen)
  messages n closed :=
    (second.messages n ((isOpen_of_relays same n).trans closed)).trans (first.messages n closed)

lemma Beside.trans (first : s.Beside t more) (second : t.Beside u later) :
    s.Beside u (more ++ later) where
  settings := second.settings.trans first.settings
  collaborators := second.collaborators.trans first.collaborators
  machine := second.machine.trans first.machine
  published := second.published.trans first.published
  phase := second.phase.trans first.phase
  session := second.session.trans first.session
  nextGeneration := second.nextGeneration.trans first.nextGeneration
  event := second.event.trans first.event
  lastEvent := second.lastEvent.trans first.lastEvent
  addressing := second.addressing.trans first.addressing
  relay := second.relay.trans first.relay
  children := second.children.trans first.children
  relays := second.relays.trans first.relays
  eases := first.eases.trans second.eases first.relays
  handles := second.handles ∘ first.handles
  aside effect shown := (List.mem_append.mp shown).elim (first.aside effect) (second.aside effect)
  refused ticket shown := by
    rcases List.mem_append.mp shown with shown | shown
    · exact first.refused ticket shown
    · rw [← first.phase]
      exact second.refused ticket shown

/-- The parts that steps beside the loop may change. -/
lemma Beside.of_parts
    {requests listening channels wrapperStarts sendings relayTasks log pipes servers exits waiters
      handles}
    (last : s.handles = 0 → handles = 0) (aside : ∀ effect ∈ more, Aside effect)
    (refused : ∀ ticket, .answered ticket (.error .loopClosed) true ∈ more →
      s.phase.isOver = true) (eases : Eases s { s with sendings, relayTasks }) :
    s.Beside
      { s with
        requests, listening, channels, wrapperStarts, sendings, relayTasks, log, pipes, servers
        exits, handles
        shared := { s.shared with waiters } } more where
  settings := rfl
  collaborators := rfl
  machine := rfl
  published := rfl
  phase := rfl
  session := rfl
  nextGeneration := rfl
  event := rfl
  lastEvent := rfl
  addressing := rfl
  relay := rfl
  children := rfl
  relays := rfl
  eases := ⟨eases.tasks, eases.running, eases.messages⟩
  handles := last
  aside := aside
  refused := refused

/-- A step beside the loop that shows nothing but what the tasks beside it do. -/
lemma Beside.of_shown
    {requests listening channels wrapperStarts log pipes servers exits waiters}
    (shown : ∀ effect ∈ more, Aside effect ∧
      ∀ ticket, effect ≠ .answered ticket (.error .loopClosed) true) :
    s.Beside
      { s with
        requests, listening, channels, wrapperStarts, log, pipes, servers, exits
        shared := { s.shared with waiters } } more :=
  .of_parts id (fun effect member => (shown effect member).1)
    (fun ticket member => absurd rfl ((shown _ member).2 ticket)) (.of_same rfl rfl)

/-- The parts that change where the queues stay as they are. -/
lemma Apart.of_eases {channels wrapperStarts sendings relayTasks log pipes waiters}
    (eases : Eases s { s with sendings, relayTasks })
    (shown : ∀ effect ∈ more, Aside effect ∧ effect.isDelivery = false) :
    s.Apart
      { s with
        channels, wrapperStarts, sendings, relayTasks, log, pipes
        shared := { s.shared with waiters } } more where
  toBeside := .of_parts id (fun effect member => (shown effect member).1)
    (fun _ member => Bool.noConfusion (shown _ member).2) eases
  requests := rfl
  listening := rfl
  servers := rfl
  exits := rfl
  quiet effect member := (shown effect member).2

lemma Apart.of_shown {channels wrapperStarts log pipes waiters}
    (shown : ∀ effect ∈ more, Aside effect ∧ effect.isDelivery = false) :
    s.Apart
      { s with
        channels, wrapperStarts, log, pipes
        shared := { s.shared with waiters } } more :=
  .of_eases (.of_same rfl rfl) shown

lemma Apart.of_handles {handles : Nat} (last : s.handles = 0 → handles = 0) :
    s.Apart { s with handles } [] where
  toBeside := .of_parts last (by simp) (by simp) (.of_same rfl rfl)
  requests := rfl
  listening := rfl
  servers := rfl
  exits := rfl
  quiet := by simp

lemma submit_move {request : Request} (step : s.submit request = some (t, more)) :
    s.Move (.submit request) t more := by
  unfold submit at step
  split at step
  · contradiction
  case isFalse alive =>
    split at step
    case isTrue ended =>
      cases step
      exact .refuse alive ended
    case isFalse running =>
      split at step
      · cases step
        exact .enter alive (by simpa using running)
      · contradiction

lemma actFor_beside (generation pid : Nat) (action : WaiterAction) :
    s.Beside (s.actFor generation pid action).1 (s.actFor generation pid action).2 := by
  cases action with
  | requestEnd => exact .of_shown (by simpa [actFor] using Aside.endRequested)
  | warn reason => exact .of_shown (by simpa [actFor, note] using Aside.endRequestFailed)
  | report result => exact .of_shown (by simpa [actFor] using Aside.exitQueued)

lemma actions_beside (generation pid : Nat) (actions : List WaiterAction)
    (beside : s.Beside t more) :
    let after :=
      actions.foldl (fun acc action => andThen acc (·.actFor generation pid action)) (t, more)
    s.Beside after.1 after.2 := by
  induction actions generalizing t more with
  | nil => exact beside
  | cons action rest ih => exact ih (beside.trans (actFor_beside generation pid action))

lemma stepWaiter_move {generation : Nat} {event : WaiterEvent}
    (step : s.stepWaiter generation event = some (t, more)) :
    s.Move (.waiterStep generation event) t more := by
  unfold stepWaiter at step
  split at step
  · contradiction
  case h_2 server found =>
    obtain rfl : server.generation = generation := by simpa using List.find?_some found
    have member := List.mem_of_find?_eq_some found
    split at step
    case isFalse => contradiction
    case isTrue seen =>
      obtain ⟨⟨waiter, actions⟩, next, acted⟩ := Option.map_eq_some_iff.mp step
      have start : s.Beside (s.setWaiter server.generation waiter) [] := .of_shown (by simp)
      have beside := actions_beside server.generation server.pid actions start
      dsimp only at acted
      rw [acted] at beside
      cases event with
      | ended result =>
        cases current : server.waiter with
        | racing | draining =>
          rw [current] at next
          cases next
          cases acted
          exact .report member (by simp [current])
        | reported =>
          rw [current] at next
          cases next
      | cancelled outcome =>
        cases current : server.waiter with
        | racing =>
          rw [current] at next
          cases outcome with
          | ok | error =>
            cases next
            cases acted
            exact .notice member current beside (by simp [actFor, andThen])
              (by simp [actFor, andThen])
        | draining | reported =>
          rw [current] at next
          cases next

/-- A waiter that has reported sees nothing more. -/
lemma stepWaiter_eq_none {generation : Nat}
    (reported : ∀ server ∈ s.servers, server.generation = generation → server.waiter = .reported)
    (event : WaiterEvent) : s.stepWaiter generation event = none := by
  unfold stepWaiter
  split
  case h_1 => rfl
  case h_2 server found =>
    have same : server.generation = generation := by simpa using List.find?_some found
    rw [reported server (List.mem_of_find?_eq_some found) same]
    split <;> rfl

/-- Every step of the tasks and calls beside the loop is one of those listed. -/
theorem step?_detached {i : Input} (detached : i.isDetached = true)
    (step : s.step? i = some (t, more)) : s.Detached i t more := by
  cases i with
  | proceed | poll | submit | hangUp | destroy | waiterStep => contradiction
  | cloneHandle =>
    simp only [step?] at step
    split at step
    · contradiction
    case isFalse alive =>
      cases step
      exact .cloneHandle alive
  | dropHandle =>
    simp only [step?] at step
    split at step
    · contradiction
    case isFalse alive =>
      cases step
      exact .dropHandle alive
  | runWrapper number result =>
    obtain ⟨start, found, made⟩ := Option.map_eq_some_iff.mp step
    cases made
    exact .runWrapper found
  | openChannel capacity =>
    simp only [step?, openChannel] at step
    split at step
    · contradiction
    case isFalse free =>
      cases step
      exact .openChannel (by simpa using free)
  | receiveSignal number =>
    cases step
    exact .receiveSignal
  | drainChannel number =>
    cases step
    exact .drainChannel
  | closeChannel number =>
    cases step
    exact .closeChannel
  | wrote generation stream bytes =>
    obtain ⟨pipe, found, written⟩ := Option.map_eq_some_iff.mp step
    cases written
    exact .wrote found
  | capture generation stream count =>
    obtain ⟨pipe, found, captured⟩ := Option.bind_eq_some_iff.mp step
    dsimp only at captured
    split at captured
    · contradiction
    case isFalse some =>
      cases captured
      exact .capture found rfl (by simpa using some)
  | beginSend ticket payload =>
    simp only [step?, beginSend] at step
    split at step
    · contradiction
    case isFalse free =>
      split at step
      case h_1 none =>
        cases step
        exact .unconnected (by simpa using free) none
      case h_2 n some =>
        cases step
        exact .beginSend (by simpa using free) some
  | holdSocket ticket =>
    simp only [step?, holdSocket, bind, pure, Option.bind_eq_some_iff] at step
    obtain ⟨sending, found, step⟩ := step
    split at step
    · contradiction
    case h_2 n stage =>
      obtain ⟨relay, known, step⟩ := Option.bind_eq_some_iff.mp step
      cases isOpen : relay.isOpen with
      | true =>
        simp only [Relay.outbound, isOpen, if_true] at step
        cases step
        exact .holdSocket found stage known isOpen
      | false =>
        simp only [Relay.outbound, isOpen, Bool.false_eq_true, if_false] at step
        cases step
        exact .findClosed found stage known isOpen
  | transmit ticket result =>
    simp only [step?, transmit, bind, pure, Option.bind_eq_some_iff] at step
    obtain ⟨sending, found, step⟩ := step
    split at step
    · contradiction
    case h_2 n datagram stage =>
      cases step
      exact .transmit result found stage
  | endTask task =>
    simp only [step?, endTask] at step
    split at step
    case isTrue due =>
      cases step
      exact .endTask due.1 due.2
    case isFalse => contradiction

lemma Eases.of_messages {sendings : List Sending}
    (messages : ∀ n, s.isOpen n = false →
      (sendings.filterMap (·.holds? n)).Sublist (s.sendings.filterMap (·.holds? n))) :
    Eases s { s with sendings } :=
  ⟨.refl _, fun _ member _ => member, messages⟩

lemma sublist_dropSending (s : System) (ticket n : Nat) :
    ((s.dropSending ticket).sendings.filterMap (·.holds? n)).Sublist
      (s.sendings.filterMap (·.holds? n)) :=
  List.filter_sublist.filterMap _

lemma Detached.apart {i : Input} (detached : s.Detached i t more) : s.Apart t more := by
  cases detached with
  | cloneHandle alive | dropHandle alive => exact .of_handles fun gone => absurd gone alive
  | @runWrapper number result start found =>
    refine .of_shown ?_
    cases result with
    | ok => simpa [wrapperComplaint] using Aside.wrapperStarted
    | error cause =>
      simpa [wrapperComplaint] using ⟨Aside.wrapperStarted, Aside.wrapperFailed⟩
  | openChannel | receiveSignal | drainChannel | closeChannel | wrote =>
    exact .of_shown (by simp)
  | capture => exact .of_shown (by simpa using Aside.captured)
  | unconnected => exact .of_shown (by simpa using Aside.sendAnswered)
  | @beginSend ticket payload n =>
    refine .of_eases (.of_messages fun m closed => ?_) (by simp)
    simp [Sending.holds?]
  | @holdSocket ticket sending n relay found stage there isOpen =>
    refine .of_eases (.of_messages fun m closed => ?_) (by simp)
    -- The message takes hold of the socket of a relay that is open.
    have other : n ≠ m := by
      rintro rfl
      simp [System.isOpen, there, isOpen] at closed
    simpa [Sending.holds?, other] using s.sublist_dropSending ticket m
  | findClosed =>
    exact .of_eases (.of_messages fun m _ => s.sublist_dropSending _ m)
      (by simpa using Aside.sendAnswered)
  | transmit =>
    exact .of_eases (.of_messages fun m _ => s.sublist_dropSending _ m)
      (by simpa using ⟨Aside.sent, Aside.sendAnswered⟩)
  | endTask member closed =>
    refine .of_eases ⟨List.erase_sublist .., fun other among isOpen => ?_, fun _ _ => .refl _⟩
      (by simp)
    refine (List.mem_erase_of_ne ?_).mpr among
    rintro rfl
    rw [closed] at isOpen
    contradiction

lemma failLaunch_eq {u : System} (machine : u.machine = .launching) (l : Launch)
    (cause : SupervisorError) :
    u.failLaunch l cause =
      ({ u with
        machine := .idle, published := .idle, phase := .waiting
        listening := u.listening.filter (· != l.ticket) },
      [.logged (.startFailed cause), .published .launching .idle,
        .answered l.ticket (.error cause) (u.listening.contains l.ticket)]) := by
  simp [failLaunch, note, andThen_eq, setState_eq, State.allows, machine, enter, answer]

lemma closeRelay_eq {n : Nat} {relay : Relay} (found : s.relay? n = some relay) :
    s.closeRelay n =
      ({ s with
        relays := s.relays.set n relay.close }, [.relayClosed n]) := by
  simp [closeRelay, found]

/-- Every failure of a launch that has been announced is answered alike. -/
lemma LaunchFailure.stepLaunch {u : System} {cleanup : List Effect} {cause : SupervisorError}
    (failure : LaunchFailure s env l u cleanup cause) (machine : s.machine = .launching) :
    s.stepLaunch env l =
      ({ u with
        machine := .idle, published := .idle, phase := .waiting
        listening := s.listening.filter (· != l.ticket) },
      cleanup ++ [.logged (.startFailed cause), .published .launching .idle,
        .answered l.ticket (.error cause) (s.listening.contains l.ticket)]) := by
  cases failure with
  | directory stage found => simp [System.stepLaunch, stage, found, failLaunch_eq machine]
  | options stage found => simp [System.stepLaunch, stage, found, failLaunch_eq machine]
  | relay stage opened =>
    simp only [System.stepLaunch, stage, opened, List.nil_append]
    rw [failLaunch_eq (by exact machine)]
  | @server dir options n relay cause stage started exists_ =>
    have closed := closeRelay_eq (s := { s with nextGeneration := s.nextGeneration + 1 }) exists_
    simp only [System.stepLaunch, stage, started, andThen_eq, closed]
    rw [failLaunch_eq (by exact machine)]

lemma startChild_fst (plugin : Plugin) (fallback : Path) (failure : ProcessError → LogEntry) :
    (s.startChild env plugin fallback failure).1 =
      { s with shared := { s.shared with
          children := (s.startChild env plugin fallback failure).1.shared.children } } := rfl

lemma startTracker_fst (dir : Path) (options : ServerOptions) :
    (s.startTracker env dir options).1 =
      { s with shared := { s.shared with
          children := (s.startTracker env dir options).1.shared.children } } := by
  unfold startTracker
  split
  · split
    · split <;> rfl
    · rfl
  · rfl

lemma startCommand_fst (dir : Path) (line : String) :
    (s.startCommand env dir line).1 =
      { s with shared := { s.shared with
          children := (s.startCommand env dir line).1.shared.children } } := by
  unfold startCommand
  split <;> rfl

lemma requestWrapper_eq (l : Launch) (options : ServerOptions) :
    s.requestWrapper l options =
      { s with wrapperStarts := (s.requestWrapper l options).wrapperStarts } := by
  unfold requestWrapper
  split
  · split <;> rfl
  · rfl

lemma stepLaunch_turn (coherent : s.Coherent) (phase : s.phase = .launching l) :
    Turn s (s.stepLaunch env l).1 (s.stepLaunch env l).2 := by
  have fits : s.LaunchFits l := by simpa only [PhaseFits, phase] using coherent.phase
  cases stage : l.stage with
  | announce =>
    have machine : s.machine = .idle := by simp only [LaunchFits, stage] at fits; exact fits.1
    have turn := Turn.announce phase stage
    simpa [stepLaunch, stage, andThen_eq, setState_eq, State.allows, machine, onStage, enter]
      using turn
  | readDirectory =>
    have machine := fits.launching (by simp [stage])
    cases found : env.workingDir with
    | error cause =>
      have failure : LaunchFailure s env l _ _ _ := .directory stage found
      rw [failure.stepLaunch machine]
      exact .fail phase failure
    | ok dir =>
      have turn := Turn.findDirectory phase stage found
      simpa [stepLaunch, stage, found, onStage, enter] using turn
  | readOptions dir =>
    have machine := fits.launching (by simp [stage])
    cases found : env.serverOptions with
    | error cause =>
      have failure : LaunchFailure s env l _ _ _ := .options stage found
      rw [failure.stepLaunch machine]
      exact .fail phase failure
    | ok options =>
      have turn := Turn.loadOptions phase stage found
      simpa [stepLaunch, stage, found, onStage, enter] using turn
  | openRelay dir options =>
    have machine := fits.launching (by simp [stage])
    cases opened : Relay.open? s.sockets env.network l.addressing with
    | error cause =>
      have failure : LaunchFailure s env l _ _ _ := .relay stage opened
      rw [failure.stepLaunch machine]
      exact .fail phase failure
    | ok relay =>
      have turn := Turn.openRelay phase stage opened
      simpa [stepLaunch, stage, opened, addRelay, onStage, enter] using turn
  | startServer dir options n =>
    simp only [LaunchFits, stage] at fits
    obtain ⟨machine, _, _, relay, exists_, _⟩ := fits
    cases started : env.start s.settings.server with
    | error cause =>
      have failure : LaunchFailure s env l _ _ _ := .server stage started exists_
      rw [failure.stepLaunch machine]
      exact .fail phase failure
    | ok pid =>
      have turn := Turn.startServer phase stage started
      simpa [stepLaunch, stage, started, onStage, enter] using turn
  | adopt dir options n x =>
    have turn := Turn.adopt phase stage
    simpa [stepLaunch, stage, onStage, enter] using turn
  | startWrapper dir options =>
    have turn := Turn.requestWrapper phase stage
    rw [stepLaunch, stage]
    simp only [onStage, enter]
    rw [requestWrapper_eq]
    exact turn
  | startTracker dir options =>
    have start : AuxiliaryStart s env l _ _ _ := .tracker stage
    have turn := Turn.auxiliary phase start
    rw [stepLaunch, stage]
    simp only [andThen_eq, onStage, enter, List.append_nil]
    rw [startTracker_fst]
    exact turn
  | startPlugins dir plugins =>
    cases plugins with
    | nil =>
      have start : AuxiliaryStart s env l _ _ _ := .lastPlugin stage
      have turn := Turn.auxiliary phase start
      rw [stepLaunch, stage]
      simp only [onStage, enter]
      exact turn
    | cons plugin rest =>
      have start : AuxiliaryStart s env l _ _ _ := .plugin stage
      have turn := Turn.auxiliary phase start
      rw [stepLaunch, stage]
      simp only [andThen_eq, onStage, enter, List.append_nil]
      rw [startChild_fst]
      exact turn
  | startCommands dir lines =>
    cases lines with
    | nil =>
      have start : AuxiliaryStart s env l _ _ _ := .lastCommand stage
      have turn := Turn.auxiliary phase start
      rw [stepLaunch, stage]
      simp only [onStage, enter]
      exact turn
    | cons line rest =>
      have start : AuxiliaryStart s env l _ _ _ := .command stage
      have turn := Turn.auxiliary phase start
      rw [stepLaunch, stage]
      simp only [andThen_eq, onStage, enter, List.append_nil]
      rw [startCommand_fst]
      exact turn
  | finish =>
    have machine := fits.launching (by simp [stage])
    have turn := Turn.activate phase stage
    simpa [stepLaunch, stage, andThen_eq, setState_eq, State.allows, machine, enter, answer]
      using turn

lemma signal_fst (number : Nat) :
    (s.signal number).1 = { s with channels := (s.signal number).1.channels } := by
  unfold signal
  split <;> rfl

lemma stepTeardown_turn (coherent : s.Coherent) {stage : TeardownStage} {next : Resumption}
    (phase : s.phase = .tearingDown stage next) :
    Turn s (s.stepTeardown env stage next).1 (s.stepTeardown env stage next).2 := by
  have fits := coherent.phase
  simp only [PhaseFits, phase] at fits
  obtain ⟨machine, fits, -⟩ := fits
  cases stage with
  | forget => exact .forget phase
  | closeRelay relay? =>
    obtain ⟨-, n, rfl, relay, found, -⟩ := fits
    have turn := Turn.closeRelay phase found
    simpa [stepTeardown, andThen_eq, closeRelay_eq found, enter] using turn
  | stopWrapper => exact .stopWrapper phase
  | killChildren =>
    have turn := Turn.killChildren env phase
    simpa [stepTeardown, andThen_eq, killChildren, enter] using turn
  | prune => exact .prune phase
  | signal channels =>
    cases channels with
    | nil => exact .signalled phase
    | cons number rest =>
      have turn := Turn.signal phase
      rw [stepTeardown]
      simp only [andThen_eq, enter, List.append_nil]
      rw [signal_fst]
      exact turn
  | finish =>
    obtain ⟨⟨x, leaving⟩, -⟩ := fits
    have turn := Turn.tearDown phase leaving.session
    simpa [stepTeardown, andThen_eq, setState_eq, machine, State.allows, leaving.session] using turn

lemma handleExit_turn {exit : Exit} {exits : List Exit} {next : Resumption}
    (machine : s.machine = .active ∨ s.machine = .stopping ∨ s.session = none)
    (attends : Attends s next) (queue : s.exits = exit :: exits)
    (other : Resumption)
    (same : (∃ x, s.session = some x ∧ x.generation = exit.generation) → other = next) :
    Turn s ({ s with exits }.handleExit exit other).1
      ({ s with exits }.handleExit exit other).2 := by
  cases session : s.session with
  | none =>
    have turn := Turn.staleExit attends queue (by simp [session])
    simpa [handleExit, andThen_eq, session] using turn
  | some x =>
    by_cases generation : x.generation = exit.generation
    · obtain rfl := same ⟨x, session, generation⟩
      have legal : s.machine.allows .tearingDown = true := by
        rcases machine with machine | machine | machine
        · rw [machine]; rfl
        · rw [machine]; rfl
        · rw [session] at machine; contradiction
      have turn := Turn.exit attends queue session generation
      simpa [handleExit, andThen_eq, session, generation, setState_eq, legal, enter] using turn
    · have turn := Turn.staleExit attends queue (by simpa [session] using generation)
      simpa [handleExit, andThen_eq, session, generation] using turn

/-- The stop of a session that is not stopping yet makes that known. -/
lemma beginStop_eq {x : Session} (running : s.machine = .active ∨ s.machine = .stopping)
    (published : s.published = s.machine) (session : s.session = some x) (now : Nat)
    (purpose : Purpose) :
    s.beginStop now purpose =
      ({ s with
        machine := .stopping, published := .stopping
        servers := s.servers.map fun server =>
          if server.generation = x.generation then { server with isCancelled := true } else server
        phase := .stopping ⟨purpose, x, now, false⟩ },
      .cancelled x.generation ::
        if s.machine = .active then [.published .active .stopping] else []) := by
  rcases running with machine | machine
  · simp [beginStop, session, andThen_eq, machine, enter, setState_eq, State.allows]
  · have keep (servers : List Server) (phase : Phase) :
        { s with machine := .stopping, published := .stopping, servers, phase } =
          { s with servers, phase } := by
      simp [published, machine]
    rw [keep]
    simp [beginStop, session, andThen_eq, machine, enter]

/-- A stop begins alike for every occasion, and is over at once where there is no session. -/
lemma beginStop_turn (coherent : s.Coherent) (phase : s.phase = .waiting) (quiet : s.exits = [])
    {u : System} {purpose : Purpose} {before : List Effect} (occasion : Occasion s u purpose before)
    (now : Nat) :
    Turn s (u.beginStop now purpose).1 (before ++ (u.beginStop now purpose).2) := by
  have fits := coherent.phase
  simp only [PhaseFits, phase] at fits
  have session_eq : u.session = s.session := by cases occasion <;> rfl
  have machine_eq : u.machine = s.machine := by cases occasion <;> rfl
  have published_eq : u.published = s.machine := by cases occasion <;> exact coherent.published
  have servers_eq : u.servers = s.servers := by cases occasion <;> rfl
  rcases fits with ⟨-, vacant⟩ | ⟨running, x, e, n, occupied, -⟩
  · have turn := Turn.beginVacant phase quiet vacant.session occasion
    simpa [beginStop, session_eq, vacant.session] using turn
  · have turn := Turn.beginStop now phase quiet occupied.session occasion
    rw [beginStop_eq (machine_eq ▸ running) (published_eq.trans machine_eq.symm)
      (session_eq.trans occupied.session), servers_eq, machine_eq]
    exact turn

lemma pollQueues_turn (coherent : s.Coherent) (phase : s.phase = .waiting) {now : Nat}
    {out : System × List Effect} (step : s.pollQueues now = some out) : Turn s out.1 out.2 := by
  have fits := coherent.phase
  simp only [PhaseFits, phase] at fits
  unfold pollQueues at step
  split at step
  case h_1 exit exits queue =>
    obtain rfl := Option.some.inj step
    have machine : s.machine = .active ∨ s.machine = .stopping ∨ s.session = none := by
      rcases fits with ⟨-, vacant⟩ | ⟨machine | machine, -⟩
      · exact .inr (.inr vacant.session)
      · exact .inl machine
      · exact .inr (.inl machine)
    exact handleExit_turn machine (.waiting phase) queue .wait fun _ => rfl
  case h_2 request requests quiet queue =>
    obtain rfl := Option.some.inj step
    exact beginStop_turn coherent phase quiet (.request queue) now
  case h_3 quiet queue =>
    split at step
    case isTrue handles =>
      obtain rfl := Option.some.inj step
      exact beginStop_turn coherent phase quiet (.shutdown queue handles) now
    case isFalse => contradiction

lemma abandonStop_turn {stop : Stop} {e : RaceEvent} (phase : s.phase = .stopping stop)
    (quiet : s.exits = []) (serves : s.Serves stop.session e) {now : Nat}
    (late : stop.since + s.settings.stopTimeout ≤ now)
    (tried : stop.killed = true ∨ now < stop.since + s.settings.stopGrace) :
    Turn s (s.abandonStop stop.purpose).1
      (.logged (.stopFailed .stopTimeout) :: (s.abandonStop stop.purpose).2) := by
  cases purpose : stop.purpose with
  | stop ticket => exact .giveUp phase quiet late tried (.inl purpose)
  | relaunch ticket event addressing =>
    exact .giveUp phase quiet late tried (.inr ⟨event, addressing, purpose⟩)
  | shutdown =>
    obtain ⟨n, occupied, relay, found, -⟩ := serves
    have turn := Turn.leave phase quiet late tried purpose occupied.relay found
    simpa [abandonStop, note, andThen_eq, occupied.relay, closeRelay_eq found, enter] using turn

lemma pollStop_turn (coherent : s.Coherent) {stop : Stop} (phase : s.phase = .stopping stop)
    {now : Nat} {kill : Except String Unit} {out : System × List Effect}
    (step : s.pollStop now kill stop = some out) : Turn s out.1 out.2 := by
  have fits := coherent.phase
  simp only [PhaseFits, phase] at fits
  obtain ⟨machine, e, serves⟩ := fits
  have session : s.session = some stop.session := by
    obtain ⟨n, occupied, -⟩ := serves
    exact occupied.session
  unfold pollStop at step
  split at step
  case h_1 exit exits queue =>
    obtain rfl := Option.some.inj step
    refine handleExit_turn (.inr (.inl machine)) (.stopping phase) queue _ ?_
    rintro ⟨x, current, generation⟩
    obtain rfl := Option.some.inj (session.symm.trans current)
    rw [if_pos generation.symm]
  case h_2 quiet =>
    split at step
    case isTrue grace =>
      obtain rfl := Option.some.inj step
      exact .kill phase quiet (by simpa using grace.1) grace.2
    case isFalse grace =>
      split at step
      case isTrue late =>
        obtain rfl := Option.some.inj step
        refine abandonStop_turn phase quiet serves late ?_
        by_cases killed : stop.killed = true
        · exact .inl killed
        · exact .inr (Nat.lt_of_not_le fun passed => grace ⟨killed, passed⟩)
      case isFalse => contradiction

/-- A step of the loop is a turn. -/
lemma proceed_turn (coherent : s.Coherent) {out : System × List Effect}
    (step : s.proceed env = some out) : Turn s out.1 out.2 := by
  unfold proceed at step
  split at step
  case h_1 l phase =>
    obtain rfl := Option.some.inj step
    exact stepLaunch_turn coherent phase
  case h_2 stage next phase =>
    obtain rfl := Option.some.inj step
    exact stepTeardown_turn coherent phase
  case h_3 => contradiction

lemma poll_turn (coherent : s.Coherent) {now : Nat} {kill : Except String Unit}
    {out : System × List Effect} (step : s.poll now kill = some out) : Turn s out.1 out.2 := by
  unfold poll at step
  split at step
  case h_1 phase => exact pollQueues_turn coherent phase step
  case h_2 stop phase => exact pollStop_turn coherent phase step
  case h_3 => contradiction

/-- A loop that is at work or has been asked to work has a step to take, at the latest when a stop
runs out of time. -/
lemma exists_due (busy : s.phase.isOver = false) (asked : s.phase = .waiting → s.requests ≠ []) :
    ∃ moment, ∀ now kill env, moment ≤ now →
      (s.poll now kill).isSome = true ∨ (s.proceed env).isSome = true := by
  cases phase : s.phase with
  | waiting =>
    refine ⟨0, fun now kill env _ => .inl ?_⟩
    have some := asked phase
    rw [poll, phase]
    cases exits : s.exits with
    | cons => simp [pollQueues, exits]
    | nil =>
      cases requests : s.requests with
      | nil => exact absurd requests some
      | cons => simp [pollQueues, exits, requests]
  | stopping stop =>
    refine ⟨stop.since + s.settings.stopTimeout, fun now kill env late => .inl ?_⟩
    rw [poll, phase]
    cases exits : s.exits with
    | cons => simp [pollStop, exits]
    | nil =>
      simp only [pollStop, exits, if_pos late]
      split <;> rfl
  | launching | tearingDown => exact ⟨0, fun now kill env _ => .inr (by simp [proceed, phase])⟩
  | finished | destroyed => simp [phase, Phase.isOver] at busy

/-- Every step of a coherent supervisor is one of the moves. -/
theorem step?_move {i : Input} (coherent : s.Coherent) (step : s.step? i = some (t, more)) :
    s.Move i t more := by
  cases i with
  | proceed env => exact .turn rfl (proceed_turn coherent step)
  | poll now kill => exact .turn rfl (poll_turn coherent step)
  | submit request => exact submit_move step
  | hangUp ticket =>
    cases step
    exact .hangUp
  | destroy =>
    simp only [step?] at step
    split at step
    · contradiction
    case isFalse running =>
      cases step
      exact .destroy (by simpa using running)
  | waiterStep generation event => exact stepWaiter_move step
  | cloneHandle | dropHandle | runWrapper | openChannel | receiveSignal | drainChannel
  | closeChannel | wrote | capture | beginSend | holdSocket | transmit | endTask =>
    exact .apart rfl (step?_detached rfl step).apart

/-- Whatever others do goes beside the loop, unless it puts an end to it. -/
lemma Move.beside {i : Input} (move : s.Move i t more) (other : i.isOwn = false)
    (alive : i ≠ .destroy) : s.Beside t more := by
  cases move with
  | turn own turn =>
    rw [other] at own
    contradiction
  | enter | hangUp => exact .of_shown (by simp)
  | refuse handles ended =>
    exact .of_parts id (by simpa using Aside.refused) (fun _ _ => ended) (.of_same rfl rfl)
  | notice member racing beside => exact beside
  | report => exact .of_shown (by simpa using Aside.exitQueued)
  | apart detached apart => exact apart.toBeside
  | destroy => contradiction

/-- A step of the loop's own is a turn. -/
lemma Move.toTurn {i : Input} (move : s.Move i t more) (own : i.isOwn = true) : s.Turn t more := by
  cases move with
  | turn _ turn => exact turn
  | apart detached => cases i <;> contradiction
  | _ => contradiction

/-- Every step is a turn of the control loop, goes beside it or puts an end to it from outside. -/
theorem step?_cases {i : Input} (coherent : s.Coherent) (step : s.step? i = some (t, more)) :
    s.Turn t more ∨ s.Beside t more ∨
      i = .destroy ∧ s.phase.isOver = false ∧ s.destroy = (t, more) := by
  have move := step?_move coherent step
  cases own : i.isOwn with
  | true => exact .inl (move.toTurn own)
  | false =>
    by_cases destroyed : i = .destroy
    · subst destroyed
      cases move with
      | turn | apart => contradiction
      | destroy running => exact .inr (.inr ⟨rfl, running, rfl⟩)
    · exact .inr (.inl (move.beside own destroyed))

end RaceControl.System
