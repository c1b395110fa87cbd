import RaceControl.Proofs.Supervisor.Partings
import RaceControl.Proofs.Supervisor.Renewal

/-!
A server that outlives every attempt to stop it. A request that ends with the time limit changes
nothing of the session but that it is stopping from then on, however many such requests follow one
another.
-/
namespace RaceControl.System
variable {s t u start : System} {seen more : List Effect} {i : Input} {x : Session}
  {request : Request} {passed later : List Transit}

/-- The handling of a request with all its steps. -/
inductive Hearing (start : System) (request : Request) : System → List Transit → Prop
  | take {s : System} {i : Input} {more : List Effect} : start.phase = .waiting →
    start.step? i = some (s, more) → .took request ∈ more →
    Hearing start request s [⟨start, i, s, more⟩]
  | next {s t : System} {passed : List Transit} {i : Input} {more : List Effect} :
    Hearing start request s passed → s.phase ≠ .waiting → i ≠ .destroy →
    s.step? i = some (t, more) → Hearing start request t (passed ++ [⟨s, i, t, more⟩])

lemma Hearing.handling (hearing : Hearing start request s passed) :
    Handling start request s (shownIn passed) := by
  induction hearing with
  | take waiting step taken =>
    rw [shownIn_singleton]
    exact .take waiting step taken
  | next _ busy alive step ih =>
    rw [shownIn_append, shownIn_singleton]
    exact .next ih busy alive step

lemma Hearing.passage (hearing : Hearing start request s passed) : Passage start s passed := by
  induction hearing with
  | take waiting step taken => exact Passage.none.step step
  | next _ busy alive step ih => exact ih.step step

/-- Requests that run out of time, one after another. Between them the loop takes no step. -/
inductive Standoff (start : System) : System → List Transit → Prop
  | none : Standoff start start []
  | beside {s t : System} {passed : List Transit} {i : Input} {more : List Effect} :
    Standoff start s passed → i.isOwn = false → i ≠ .destroy → s.step? i = some (t, more) →
    Standoff start t (passed ++ [⟨s, i, t, more⟩])
  | refused {s t : System} {passed later : List Transit} {request : Request} {isHeard : Bool} :
    Standoff start s passed → Hearing s request t later →
    .answered request.ticket (.error .stopTimeout) isHeard ∈ shownIn later →
    Standoff start t (passed ++ later)

lemma Standoff.passage (standoff : Standoff start s passed) : Passage start s passed := by
  induction standoff with
  | none => exact .none
  | beside _ other alive step ih => exact ih.step step
  | refused _ hearing _ ih => exact ih.trans hearing.passage

/-- Nothing of the session, of what is remembered and of the relays has changed. -/
structure Unmoved (s t : System) : Prop where
  session : t.session = s.session
  event : t.shared.event = s.shared.event
  lastEvent : t.shared.lastEvent = s.shared.lastEvent
  addressing : t.shared.addressing = s.shared.addressing
  relay : t.shared.relay = s.shared.relay
  children : t.shared.children = s.shared.children
  nextGeneration : t.nextGeneration = s.nextGeneration
  relays : t.relays = s.relays
  /-- No socket is bound that was not, and the tasks of an open relay run on. -/
  sockets : t.sockets ⊆ s.sockets
  tasks : ∀ task ∈ s.relayTasks, s.isOpen task.relay = true → task ∈ t.relayTasks

lemma Unmoved.refl (s : System) : Unmoved s s :=
  ⟨rfl, rfl, rfl, rfl, rfl, rfl, rfl, rfl, fun _ => id, fun _ member _ => member⟩

lemma Unmoved.trans (first : Unmoved s t) (second : Unmoved t u) : Unmoved s u where
  session := second.session.trans first.session
  event := second.event.trans first.event
  lastEvent := second.lastEvent.trans first.lastEvent
  addressing := second.addressing.trans first.addressing
  relay := second.relay.trans first.relay
  children := second.children.trans first.children
  nextGeneration := second.nextGeneration.trans first.nextGeneration
  relays := second.relays.trans first.relays
  sockets _ bound := first.sockets (second.sockets bound)
  tasks task member isOpen :=
    second.tasks task (first.tasks task member isOpen)
      ((isOpen_of_relays first.relays _).trans isOpen)

lemma Beside.unmoved (beside : s.Beside t more) : Unmoved s t where
  session := beside.session
  event := beside.event
  lastEvent := beside.lastEvent
  addressing := beside.addressing
  relay := beside.relay
  children := beside.children
  nextGeneration := beside.nextGeneration
  relays := beside.relays
  sockets := beside.eases.sockets beside.relays
  tasks := beside.eases.running

/-- All that is seen of the attempts to stop a session that do not succeed. -/
inductive Pleading (x : Session) : Effect → Prop
  | took {taken : Request} : Pleading x (.took taken)
  | cancelled : Pleading x (.cancelled x.generation)
  | published : Pleading x (.published .active .stopping)
  | killed : Pleading x (.serverKilled x.pid)
  | killFailed {cause} : Pleading x (.logged (.killFailed cause))
  | stopFailed : Pleading x (.logged (.stopFailed .stopTimeout))
  | refused {ticket isHeard} : Pleading x (.answered ticket (.error .stopTimeout) isHeard)

/-- A step of the loop that is of no consequence to a session: nothing changes but the state, which
is stopping afterwards, the queue of requests with those who listen, and that the server may have
been cancelled. -/
structure Futile (x : Session) (s t : System) (more : List Effect) : Prop where
  state : ∃ phase requests listening, t =
    { s with
      machine := .stopping, published := .stopping, phase, requests, listening
      servers := t.servers }
  before : s.published = .active ∨ s.published = .stopping
  servers : t.servers = s.servers ∨ t.servers = s.servers.map fun server =>
    if server.generation = x.generation then { server with isCancelled := true } else server
  shown : ∀ effect ∈ more, Pleading x effect

lemma Futile.unmoved (futile : Futile x s t more) : Unmoved s t := by
  obtain ⟨_, _, _, same⟩ := futile.state
  rw [same]
  exact ⟨rfl, rfl, rfl, rfl, rfl, rfl, rfl, rfl, fun _ => id, fun _ member _ => member⟩

/-- A session is not moved by what the loop does, nor by what others do. -/
def AllFutile (x : Session) (passed : List Transit) : Prop :=
  ∀ transit ∈ passed, Unmoved transit.before transit.after ∧
    (transit.input.isOwn = true → Futile x transit.before transit.after transit.shown)

/-- A stop begins with a step that is of no consequence. -/
lemma Turn.pleads (turn : s.Turn t more) (coherent : s.Coherent) (waiting : s.phase = .waiting)
    (session : s.session = some x) (taken : .took request ∈ more) :
    Futile x s t more ∧ ∃ stop, t.phase = .stopping stop := by
  have fits := coherent.phase
  simp only [PhaseFits, waiting] at fits
  cases turn with
  | beginVacant phase quiet vacant => simp [session] at vacant
  | @beginStop u purpose before y now phase quiet present occasion =>
    obtain rfl := Option.some.inj (session.symm.trans present)
    have running : s.machine = .active ∨ s.machine = .stopping := by
      rcases fits with ⟨-, vacant⟩ | ⟨running, -⟩
      · simp [vacant.session] at session
      · exact running
    have shown : ∀ effect ∈ before, Pleading x effect := by
      cases occasion with
      | request => simpa using Pleading.took
      | shutdown => simp
    obtain ⟨requests, rfl⟩ := occasion.fst
    refine ⟨⟨⟨_, requests, s.listening, rfl⟩, coherent.published ▸ running, .inr rfl, ?_⟩, _, rfl⟩
    refine List.forall_mem_append.mpr ⟨shown, List.forall_mem_cons.mpr ⟨.cancelled, ?_⟩⟩
    split
    · simpa using Pleading.published
    · simp
  | exit | staleExit =>
    rcases List.mem_append.mp taken with taken | taken
    · cases incidental_exitWarning _ _ taken
    · simp at taken
  | _ => simp_all only [reduceCtorEq]

/-- A loop comes to stop a session only from where it waits or stops already. -/
lemma Turn.stopping {stop : Stop} (turn : s.Turn t more) (coherent : s.Coherent)
    (into : t.phase = .stopping stop) : s.phase = .waiting ∨ ∃ stop, s.phase = .stopping stop := by
  have fits := coherent.phase
  cases turn with
  | beginStop now phase => exact .inl phase
  | kill phase => exact .inr ⟨_, phase⟩
  | staleExit attends =>
    cases attends with
    | waiting phase => exact .inl phase
    | stopping phase => exact .inr ⟨_, phase⟩
  | @beginVacant u purpose before phase => exact .inl phase
  | @tearDown y next phase =>
    simp only [PhaseFits, phase] at fits
    cases next with
    | wait => simp [resume, enter] at into
    | keepStopping => exact fits.2.2.elim
    | finishStop purpose =>
      cases purpose <;> simp [resume, finishStop, answer, enter] at into
  | _ => simp at into

/-- While the session is stopping already, only the place of the loop and those who listen
change. -/
lemma Futile.of_stopping (machine : s.machine = .stopping) (published : s.published = .stopping)
    (phase : Phase) (listening : List Nat) (shown : ∀ effect ∈ more, Pleading x effect) :
    Futile x s { s with phase, listening } more where
  state := by
    refine ⟨phase, s.requests, listening, ?_⟩
    nth_rewrite 1 [machine, published]
    rfl
  before := .inr published
  servers := .inl rfl
  shown := shown

/-- What comes of the next step of a stop: nothing, be it given up or not, or the end of the
session begins. -/
lemma Turn.persists {stop : Stop} (turn : s.Turn t more) (coherent : s.Coherent)
    (current : ∀ exit exits next, s.Attends next → s.exits = exit :: exits →
      ∃ y, s.session = some y ∧ y.generation = exit.generation)
    (phase : s.phase = .stopping stop) (session : s.session = some x)
    (asked : stop.purpose ≠ .shutdown) :
    Futile x s t more ∧ ((∃ later, t.phase = .stopping later ∧ later.purpose = stop.purpose) ∨
      t.phase = .waiting ∧ t.published = .stopping) ∨
      (∀ stop, t.phase ≠ .stopping stop) ∧ ∀ effect ∈ more, ¬Belated effect := by
  have fits := coherent.phase
  have published := coherent.published
  have belated {effect : Effect} (shown : effect ∈ more) := turn.belated shown
  simp only [PhaseFits, phase] at fits
  obtain ⟨machine, e, n, occupied, -⟩ := fits
  rw [machine] at published
  obtain rfl := Option.some.inj (occupied.session.symm.trans session)
  cases turn with
  | exit =>
    refine .inr ⟨by simp, fun effect shown late => ?_⟩
    obtain ⟨-, ⟨-, impossible⟩ | impossible⟩ := belated shown late <;> cases impossible
  | staleExit attends queue stale =>
    obtain ⟨y, present, same⟩ := current _ _ _ attends queue
    exact absurd same (stale y present)
  | kill here =>
    obtain rfl := Phase.stopping.inj (here.symm.trans phase)
    exact .inl ⟨.of_stopping machine published _ s.listening
      (forall_forceKill .killed fun _ => .killFailed), .inl ⟨_, rfl, rfl⟩⟩
  | giveUp here =>
    refine .inl ⟨.of_stopping machine published _ _ ?_, .inr ⟨rfl, published⟩⟩
    simpa using ⟨Pleading.stopFailed, Pleading.refused⟩
  | leave here _ _ _ purpose =>
    obtain rfl := Phase.stopping.inj (here.symm.trans phase)
    exact absurd purpose asked
  | _ => simp_all only [reduceCtorEq]

/-- How it stands with a request whose session is still to be stopped, has been given up, or has
begun to end. -/
inductive Impasse (x : Session) (request : Request) (s : System) (passed : List Transit) : Prop
  | pleading {stop : Stop} : s.phase = .stopping stop → stop.purpose = request.purpose →
    s.session = some x → AllFutile x passed → Impasse x request s passed
  | givenUp : s.phase = .waiting → s.published = .stopping → AllFutile x passed →
    Impasse x request s passed
  | departed : (∀ stop, s.phase ≠ .stopping stop) →
    (∀ ticket isHeard, .answered ticket (.error .stopTimeout) isHeard ∉ shownIn passed) →
    Impasse x request s passed

variable {settings : Settings} {collaborators : Collaborators}

lemma AllFutile.turn (futile : AllFutile x passed) (last : Futile x s t more) :
    AllFutile x (passed ++ [⟨s, i, t, more⟩]) :=
  List.forall_mem_append.mpr ⟨futile, by simpa using ⟨last.unmoved, fun _ => last⟩⟩

lemma AllFutile.beside (futile : AllFutile x passed) (other : i.isOwn = false)
    (beside : s.Beside t more) : AllFutile x (passed ++ [⟨s, i, t, more⟩]) :=
  List.forall_mem_append.mpr ⟨futile, by simpa [other] using beside.unmoved⟩

lemma Hearing.impasse (hearing : Hearing start request s passed)
    (run : Run (fresh settings collaborators) start seen) (session : start.session = some x) :
    Impasse x request s passed := by
  induction hearing with
  | @take s i more waiting step taken =>
    have working := (Handling.take waiting step taken).handles run.coherent |>.2.phase
    obtain ⟨futile, stop, phase⟩ :=
      (turn_of_took run.coherent step taken).pleads run.coherent waiting session taken
    simp only [WorksFor, phase] at working
    have untouched : AllFutile x [] := by simp [AllFutile]
    exact .pleading phase working.1 (futile.unmoved.session.trans session) (untouched.turn futile)
  | @next s t passed i more hearing busy alive step ih =>
    have running := hearing.passage.run run
    have move := step?_move running.coherent step
    cases own : i.isOwn with
    | true =>
      have turn := move.toTurn own
      cases ih with
      | pleading phase purpose current futile =>
        have asked := purpose ▸ purpose_ne_shutdown request
        rcases turn.persists running.coherent (fun _ _ _ => running.current) phase current asked
          with ⟨idle, onward | ⟨phase, published⟩⟩ | departed
        · obtain ⟨later, phase, same⟩ := onward
          exact .pleading phase (same.trans purpose) (idle.unmoved.session.trans current)
            (futile.turn idle)
        · exact .givenUp phase published (futile.turn idle)
        · refine .departed departed.1 fun ticket isHeard refused => ?_
          -- Nothing was refused before either: after an answer the loop would be waiting.
          rw [shownIn_append, shownIn_singleton] at refused
          rcases List.mem_append.mp refused with before | now
          · have answered := hearing.handling.handles run.coherent |>.2.answer _ _ _ before
            rw [phase] at answered
            cases answered.2.1
          · exact departed.2 _ now .refused
      | givenUp phase => exact absurd phase busy
      | departed gone silent =>
        -- Only a stop runs out of time, and within one request the loop stops but once.
        refine .departed (fun stop into => ?_) fun ticket isHeard refused => ?_
        · rcases turn.stopping running.coherent into with waiting | ⟨stop, phase⟩
          · exact busy waiting
          · exact gone stop phase
        · rw [shownIn_append, shownIn_singleton] at refused
          rcases List.mem_append.mp refused with before | now
          · exact silent ticket isHeard before
          · obtain ⟨⟨stop, phase⟩, -⟩ := turn.belated now .refused
            exact gone stop phase
    | false =>
      have beside := move.beside own alive
      cases ih with
      | pleading phase purpose current futile =>
        exact .pleading (beside.phase.trans phase) purpose (beside.session.trans current)
          (futile.beside own beside)
      | givenUp phase => exact absurd phase busy
      | departed gone silent =>
        refine .departed (fun stop into => gone stop (beside.phase.symm.trans into))
          fun ticket isHeard refused => ?_
        rw [shownIn_append, shownIn_singleton] at refused
        rcases List.mem_append.mp refused with before | now
        · exact silent ticket isHeard before
        · cases beside.aside _ now

lemma AllFutile.unmoved (futile : AllFutile x passed) (passage : Passage start s passed) :
    Unmoved start s := by
  induction passage with
  | none => exact .refl start
  | step passage step ih =>
    obtain ⟨before, last⟩ := List.forall_mem_append.mp futile
    exact (ih before).trans (last _ (List.mem_singleton_self _)).1

/-- A request that is refused because of the time limit has been of no consequence. -/
lemma Hearing.refused {isHeard : Bool} (hearing : Hearing start request s passed)
    (run : Run (fresh settings collaborators) start seen) (session : start.session = some x)
    (refused : .answered request.ticket (.error .stopTimeout) isHeard ∈ shownIn passed) :
    s.phase = .waiting ∧ s.published = .stopping ∧ AllFutile x passed := by
  have waiting := hearing.handling.handles run.coherent |>.2.answer _ _ _ refused |>.2.1
  cases hearing.impasse run session with
  | pleading phase => cases waiting.symm.trans phase
  | givenUp _ published futile => exact ⟨waiting, published, futile⟩
  | departed _ silent => exact absurd refused (silent request.ticket isHeard)

end RaceControl.System
