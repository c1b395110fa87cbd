import RaceControl.Proofs.Relay.Opening
import RaceControl.Proofs.Supervisor.Steps

/-!
Every step keeps a supervisor coherent, and so does every run. What coherence says to an observer
follows from how much of a session is there.
-/
namespace RaceControl.System
variable {s t u : System} {more : List Effect} {env : Surroundings} {l : Launch}

lemma Beside.coherent (beside : s.Beside t more) (coherent : s.Coherent) : t.Coherent := by
  have fits := coherent.phase
  have published := coherent.published
  constructor
  · rw [beside.published, beside.machine, published]
  · simpa only [PhaseFits, LaunchFits, TeardownFits, Serves, RelayIsOpen, vacant_iff, occupied_iff,
      leaving_iff, presentable_iff, beside.phase, beside.machine, beside.published, beside.session,
      beside.event, beside.lastEvent, beside.addressing, beside.relay, beside.children,
      beside.relays] using fits

lemma Attends.final {next : Resumption} (attends : s.Attends next) : next.IsFinal := by
  cases attends <;> trivial

/-- A launch fails before its session is there. -/
lemma LaunchFailure.vacant {cleanup : List Effect} {cause : SupervisorError}
    (failure : LaunchFailure s env l u cleanup cause) (fits : s.LaunchFits l) :
    Vacant u.session u.shared := by
  cases failure with
  | directory stage _ | options stage _ =>
    simp only [LaunchFits, stage] at fits
    exact fits.2
  | relay stage _ | server stage _ _ =>
    simp only [LaunchFits, stage] at fits
    exact fits.2.1

/-- Wherever a stop that has nothing left to do leads, the supervisor is vacant and stays so. -/
lemma coherent_finishStop (published : u.published = u.machine) (machine : u.machine = .idle)
    (vacant : Vacant u.session u.shared) (purpose : Purpose) :
    (u.finishStop purpose).1.Coherent := by
  cases purpose with
  | stop ticket => exact ⟨published, .inl ⟨machine, vacant⟩⟩
  | relaunch ticket e addressing => exact ⟨published, machine, vacant⟩
  | shutdown => exact ⟨published, .inl ⟨machine, vacant⟩⟩

lemma coherent_resume (published : u.published = u.machine) (machine : u.machine = .idle)
    (vacant : Vacant u.session u.shared) {next : Resumption} (final : next.IsFinal) :
    (u.resume next).1.Coherent := by
  cases next with
  | wait => exact ⟨published, .inl ⟨machine, vacant⟩⟩
  | finishStop purpose => exact coherent_finishStop published machine vacant purpose
  | keepStopping stop => exact final.elim

lemma Turn.coherent (turn : s.Turn t more) (coherent : s.Coherent) : t.Coherent := by
  have fits := coherent.phase
  have published := coherent.published
  cases turn with
  | announce phase stage =>
    simp only [PhaseFits, phase, LaunchFits, stage] at fits
    exact ⟨rfl, rfl, fits.2⟩
  | findDirectory phase stage found =>
    simp only [PhaseFits, phase, LaunchFits, stage] at fits
    exact ⟨published, fits⟩
  | loadOptions phase stage found =>
    simp only [PhaseFits, phase, LaunchFits, stage] at fits
    obtain ⟨machine, vacant⟩ := fits
    exact ⟨published, machine, ⟨vacant.session, vacant.event, vacant.relay, vacant.children⟩, rfl⟩
  | openRelay phase stage opened =>
    simp only [PhaseFits, phase, LaunchFits, stage] at fits
    obtain ⟨machine, vacant, addressing⟩ := fits
    refine ⟨published, machine, vacant, addressing, _, ?_, Relay.isOpen_of_open? opened⟩
    simp
  | startServer phase stage started =>
    simp only [PhaseFits, phase, LaunchFits, stage] at fits
    exact ⟨published, fits⟩
  | fail phase failure =>
    simp only [PhaseFits, phase] at fits
    exact ⟨rfl, .inl ⟨rfl, failure.vacant fits⟩⟩
  | adopt phase stage =>
    simp only [PhaseFits, phase, LaunchFits, stage] at fits
    obtain ⟨machine, vacant, addressing, isOpen⟩ := fits
    exact ⟨published, machine, addressing, _, _, ⟨rfl, rfl, rfl, rfl⟩, isOpen⟩
  | requestWrapper phase stage =>
    simp only [PhaseFits, phase, LaunchFits, stage] at fits
    exact ⟨published, fits⟩
  | auxiliary phase start =>
    simp only [PhaseFits, phase] at fits
    cases start with
    | tracker stage | plugin stage | lastPlugin stage | command stage | lastCommand stage =>
      simp only [LaunchFits, stage] at fits
      obtain ⟨machine, addressing, x, n, occupied, isOpen⟩ := fits
      exact ⟨published, machine, addressing, x, n, occupied.with_children _, isOpen⟩
  | activate phase stage =>
    simp only [PhaseFits, phase, LaunchFits, stage] at fits
    obtain ⟨machine, addressing, x, serves⟩ := fits
    exact ⟨rfl, .inr ⟨.inl rfl, _, _, serves⟩⟩
  | beginVacant phase quiet session occasion =>
    simp only [PhaseFits, phase] at fits
    rcases fits with ⟨machine, vacant⟩ | ⟨-, x, e, n, occupied, -⟩
    · cases occasion with
      | request _ | shutdown _ _ =>
        apply coherent_finishStop
        exacts [published, machine, vacant]
    · rw [occupied.session] at session
      contradiction
  | beginStop now phase quiet session occasion =>
    simp only [PhaseFits, phase] at fits
    rcases fits with ⟨-, vacant⟩ | ⟨-, x, e, n, occupied, isOpen⟩
    · rw [vacant.session] at session
      contradiction
    · obtain rfl := Option.some.inj (occupied.session.symm.trans session)
      cases occasion with
      | request _ | shutdown _ _ => exact ⟨rfl, rfl, e, n, occupied, isOpen⟩
  | exit attends queue session generation =>
    have serves : ∃ x e, s.Serves x e := by
      cases attends with
      | waiting phase =>
        simp only [PhaseFits, phase] at fits
        rcases fits with ⟨-, vacant⟩ | ⟨-, serves⟩
        · rw [vacant.session] at session
          contradiction
        · exact serves
      | stopping phase =>
        simp only [PhaseFits, phase] at fits
        exact ⟨_, fits.2⟩
    have final : Resumption.IsFinal _ := attends.final
    exact ⟨rfl, rfl, serves, final⟩
  | staleExit attends queue stale =>
    exact ⟨published, fits⟩
  | kill phase quiet fresh grace =>
    simp only [PhaseFits, phase] at fits
    exact ⟨published, fits⟩
  | giveUp phase quiet late tried purpose =>
    simp only [PhaseFits, phase] at fits
    exact ⟨published, .inr ⟨.inr fits.1, _, fits.2⟩⟩
  | leave phase quiet late tried purpose relay found =>
    simp only [PhaseFits, phase] at fits
    obtain ⟨machine, e, n, occupied, -⟩ := fits
    exact ⟨published, .inr ⟨machine, _, e, n, occupied⟩⟩
  | forget phase =>
    simp only [PhaseFits, phase, TeardownFits] at fits
    obtain ⟨machine, ⟨x, e, n, occupied, isOpen⟩, final⟩ := fits
    exact ⟨published, machine, ⟨⟨x, occupied.session, rfl, rfl⟩, n, occupied.relay, isOpen⟩, final⟩
  | closeRelay phase found =>
    simp only [PhaseFits, phase, TeardownFits] at fits
    exact ⟨published, fits.1, fits.2.1.1, fits.2.2⟩
  | stopWrapper phase =>
    simp only [PhaseFits, phase, TeardownFits] at fits
    exact ⟨published, fits⟩
  | killChildren env phase =>
    simp only [PhaseFits, phase, TeardownFits] at fits
    obtain ⟨machine, ⟨x, leaving⟩, final⟩ := fits
    exact ⟨published, machine, ⟨⟨x, leaving.with_children _⟩, rfl⟩, final⟩
  | prune phase =>
    simp only [PhaseFits, phase, TeardownFits] at fits
    obtain ⟨machine, ⟨⟨x, leaving⟩, children⟩, final⟩ := fits
    exact ⟨published, machine, ⟨⟨x, leaving.with_waiters _⟩, children⟩, final⟩
  | signal phase =>
    simp only [PhaseFits, phase, TeardownFits] at fits
    exact ⟨published, fits⟩
  | signalled phase =>
    simp only [PhaseFits, phase, TeardownFits] at fits
    exact ⟨published, fits⟩
  | tearDown phase session =>
    simp only [PhaseFits, phase, TeardownFits] at fits
    obtain ⟨-, ⟨⟨x, leaving⟩, children⟩, final⟩ := fits
    apply coherent_resume
    exacts [rfl, rfl, ⟨rfl, leaving.event, leaving.relay, children⟩, final]

/-- How much of a session is there, whatever the loop is about to do. -/
inductive Standing (s : System) : Prop
  | vacant : s.machine = .idle ∨ s.machine = .launching → Vacant s.session s.shared → Standing s
  | occupied {x e n} : s.machine ≠ .idle → Occupied s.session s.shared x e n →
    (s.phase ≠ .finished → HasOpenRelay s.relays n) → Standing s
  | leaving {x} : s.machine = .tearingDown → Leaving s.session s.shared x → Standing s
  | destroyed : Presentable s.published s.shared → s.RelayIsOpen → Standing s

lemma Serves.standing {x : Session} {e : RaceEvent} (serves : s.Serves x e)
    (machine : s.machine ≠ .idle) : s.Standing := by
  obtain ⟨n, occupied, isOpen⟩ := serves
  exact .occupied machine occupied fun _ => isOpen

lemma LaunchFits.standing (fits : s.LaunchFits l) : s.Standing := by
  cases stage : l.stage with
  | announce =>
    simp only [LaunchFits, stage] at fits
    exact .vacant (.inl fits.1) fits.2
  | readDirectory | readOptions dir =>
    simp only [LaunchFits, stage] at fits
    exact .vacant (.inr fits.1) fits.2
  | openRelay dir options | startServer dir options n | adopt dir options n x =>
    simp only [LaunchFits, stage] at fits
    exact .vacant (.inr fits.1) fits.2.1
  | startWrapper dir options | startTracker dir options | startPlugins dir plugins
  | startCommands dir lines | finish =>
    simp only [LaunchFits, stage] at fits
    obtain ⟨machine, -, x, serves⟩ := fits
    exact serves.standing (by simp [machine])

lemma TeardownFits.standing {stage : TeardownStage} (fits : s.TeardownFits stage)
    (machine : s.machine = .tearingDown) : s.Standing := by
  cases stage with
  | forget =>
    obtain ⟨x, e, serves⟩ := fits
    exact serves.standing (by simp [machine])
  | closeRelay _ | prune | signal _ | finish =>
    obtain ⟨⟨x, leaving⟩, -⟩ := fits
    exact .leaving machine leaving
  | stopWrapper | killChildren =>
    obtain ⟨x, leaving⟩ := fits
    exact .leaving machine leaving

lemma Coherent.standing (coherent : s.Coherent) : s.Standing := by
  have fits := coherent.phase
  cases phase : s.phase with
  | waiting =>
    simp only [PhaseFits, phase] at fits
    rcases fits with ⟨machine, vacant⟩ | ⟨machine, x, e, serves⟩
    · exact .vacant (.inl machine) vacant
    · exact serves.standing (by rcases machine with machine | machine <;> simp [machine])
  | launching l =>
    simp only [PhaseFits, phase] at fits
    exact fits.standing
  | stopping stop =>
    simp only [PhaseFits, phase] at fits
    obtain ⟨machine, e, serves⟩ := fits
    exact serves.standing (by simp [machine])
  | tearingDown stage next =>
    simp only [PhaseFits, phase] at fits
    exact fits.2.1.standing fits.1
  | finished =>
    simp only [PhaseFits, phase] at fits
    rcases fits with ⟨machine, vacant⟩ | ⟨machine, x, e, n, occupied⟩
    · exact .vacant (.inl machine) vacant
    · exact .occupied (by simp [machine]) occupied fun running => absurd phase running
  | destroyed =>
    simp only [PhaseFits, phase] at fits
    exact .destroyed fits.1 fits.2

lemma Coherent.relayIsOpen (coherent : s.Coherent) (running : s.phase ≠ .finished) :
    s.RelayIsOpen := by
  intro n relay
  cases coherent.standing with
  | vacant machine vacant =>
    rw [vacant.relay] at relay
    contradiction
  | occupied machine occupied isOpen =>
    obtain rfl := Option.some.inj (occupied.relay.symm.trans relay)
    exact isOpen running
  | leaving machine leaving =>
    rw [leaving.relay] at relay
    contradiction
  | destroyed presentable isOpen => exact isOpen n relay

lemma Coherent.presentable (coherent : s.Coherent) : Presentable s.published s.shared := by
  cases coherent.standing with
  | vacant machine vacant =>
    rw [coherent.published]
    rcases machine with machine | machine <;>
      simp [presentable_iff, machine, vacant.event, vacant.relay, vacant.children]
  | occupied machine occupied isOpen =>
    rw [coherent.published]
    simp [presentable_iff, machine, occupied.event, occupied.relay, occupied.lastEvent]
  | leaving machine leaving =>
    rw [coherent.published]
    simp [presentable_iff, machine, leaving.event, leaving.relay]
  | destroyed presentable isOpen => exact presentable

lemma Coherent.destroy (coherent : s.Coherent) (running : s.phase.isOver = false) :
    s.destroy.1.Coherent := by
  have finished : s.phase ≠ .finished := by
    rintro phase
    rw [phase] at running
    contradiction
  exact ⟨coherent.published, coherent.presentable, coherent.relayIsOpen finished⟩

lemma coherent_fresh (settings : Settings) (collaborators : Collaborators) :
    (fresh settings collaborators).Coherent :=
  ⟨rfl, .inl ⟨rfl, rfl, rfl, rfl, rfl⟩⟩

/-- What the start has and every kind of step keeps, every run keeps. -/
theorem Run.keeps {start : System} {seen : List Effect} {P : System → List Effect → Prop}
    (coherent : start.Coherent) (initial : P start [])
    (turn : ∀ {s t seen more}, s.Coherent → P s seen → s.Turn t more → P t (seen ++ more))
    (beside : ∀ {s t seen more}, s.Coherent → P s seen → s.Beside t more → P t (seen ++ more))
    (destroy : ∀ {s seen}, s.Coherent → P s seen → s.phase.isOver = false →
      P s.destroy.1 (seen ++ s.destroy.2))
    (run : Run start s seen) : s.Coherent ∧ P s seen := by
  induction run with
  | none => exact ⟨coherent, initial⟩
  | @step s t seen more i run step ih =>
    obtain ⟨coherent, holds⟩ := ih
    rcases step?_cases coherent step with turned | aside | ⟨-, running, destroyed⟩
    · exact ⟨turned.coherent coherent, turn coherent holds turned⟩
    · exact ⟨aside.coherent coherent, beside coherent holds aside⟩
    · have kept := destroy coherent holds running
      have whole := coherent.destroy running
      rw [destroyed] at kept whole
      exact ⟨whole, kept⟩

theorem Run.coherent {settings : Settings} {collaborators : Collaborators} {seen : List Effect}
    (run : Run (fresh settings collaborators) s seen) : s.Coherent :=
  (run.keeps (coherent_fresh settings collaborators) (P := fun _ _ => True) trivial
    (fun _ _ _ => trivial) (fun _ _ _ => trivial) fun _ _ _ => trivial).1

/-- A loop that is over takes no turn any more. -/
lemma Turn.running (turn : s.Turn t more) : s.phase.isOver = false := by
  cases turn with
  | exit attends | staleExit attends =>
    cases attends with
    | waiting phase | stopping phase => simp [phase, Phase.isOver]
  | announce phase | findDirectory phase | loadOptions phase | openRelay phase | startServer phase
  | fail phase | adopt phase | requestWrapper phase | auxiliary phase | activate phase
  | beginVacant phase | beginStop now phase | kill phase | giveUp phase | leave phase
  | forget phase | closeRelay phase | stopWrapper phase | killChildren env phase | prune phase
  | signal phase | signalled phase | tearDown phase => simp [phase, Phase.isOver]

lemma Turn.unfinished (turn : s.Turn t more) : s.phase ≠ .finished ∧ s.phase ≠ .destroyed := by
  have running := turn.running
  constructor
  all_goals
    intro gone
    simp [gone, Phase.isOver] at running

/-- The loop does not destroy itself. -/
lemma Turn.alive (turn : s.Turn t more) : t.phase ≠ .destroyed := by
  cases turn with
  | @beginVacant u purpose => cases purpose <;> simp [finishStop, answer, enter]
  | staleExit attends =>
    cases attends with
    | waiting phase | stopping phase => simp [phase]
  | @tearDown x next =>
    cases next with
    | wait | keepStopping => simp [resume, enter]
    | finishStop purpose => cases purpose <;> simp [resume, finishStop, answer, enter]
  | _ => simp

/-- A move of a loop that has been destroyed leaves it so. -/
lemma Move.destroyed {i : Input} (move : s.Move i t more) (destroyed : s.phase = .destroyed) :
    t.phase = .destroyed := by
  cases move with
  | turn own turn =>
    have running := turn.running
    rw [destroyed] at running
    contradiction
  | enter | refuse | hangUp | report => exact destroyed
  | notice member racing beside => exact beside.phase.trans destroyed
  | apart detached apart => exact apart.phase.trans destroyed
  | destroy => rfl

/-- Only from outside can the loop be destroyed. -/
lemma Move.alive {i : Input} (move : s.Move i t more) (alive : s.phase ≠ .destroyed)
    (other : i ≠ .destroy) : t.phase ≠ .destroyed := by
  cases move with
  | turn own turn => exact turn.alive
  | enter | refuse | hangUp | report => exact alive
  | notice member racing beside => exact beside.phase ▸ alive
  | apart detached apart => exact apart.phase ▸ alive
  | destroy => exact absurd rfl other

/-- What the start has and every move keeps, every run keeps. -/
theorem Run.keeps_moves {settings : Settings} {collaborators : Collaborators} {seen : List Effect}
    {P : System → List Effect → Prop} (initial : P (fresh settings collaborators) [])
    (move : ∀ {s t seen more i}, Run (fresh settings collaborators) s seen → P s seen →
      s.Move i t more → P t (seen ++ more))
    (run : Run (fresh settings collaborators) s seen) : P s seen := by
  induction run with
  | none => exact initial
  | step run step ih => exact move run ih (step?_move run.coherent step)

/-- What every move keeps that does not destroy the loop holds until it is destroyed. -/
theorem Run.keeps_alive {settings : Settings} {collaborators : Collaborators} {seen : List Effect}
    {P : System → List Effect → Prop} (initial : P (fresh settings collaborators) [])
    (move : ∀ {s t seen more i}, Run (fresh settings collaborators) s seen → P s seen →
      s.Move i t more → t.phase ≠ .destroyed → P t (seen ++ more))
    (run : Run (fresh settings collaborators) s seen) (alive : s.phase ≠ .destroyed) : P s seen :=
  run.keeps_moves (P := fun s seen => s.phase ≠ .destroyed → P s seen) (fun _ => initial)
    (fun run kept moved alive =>
      move run (kept fun destroyed => alive (moved.destroyed destroyed)) moved alive) alive

/-- What holds of all that a step shows in a run, holds of all that the run shows. -/
theorem Run.forall_shown {start : System} {seen : List Effect} {p : Effect → Prop}
    (step : ∀ {s t seen more i}, Run start s seen → s.step? i = some (t, more) →
      ∀ effect ∈ more, p effect)
    (run : Run start s seen) : ∀ effect ∈ seen, p effect := by
  induction run with
  | none => simp
  | step run due ih => exact List.forall_mem_append.mpr ⟨ih, step run due⟩

/-- Takes one step after another, as long as each of them is due. -/
def steps? (s : System) : List Input → Option (System × List Effect)
  | [] => some (s, [])
  | i :: rest =>
    (s.step? i).bind fun (t, more) => (t.steps? rest).map fun (u, later) => (u, more ++ later)

lemma Run.steps {start : System} {seen later : List Effect} {inputs : List Input}
    (run : Run start s seen) (steps : s.steps? inputs = some (t, later)) :
    Run start t (seen ++ later) := by
  induction inputs generalizing s seen later with
  | nil =>
    cases steps
    simpa using run
  | cons i rest ih =>
    obtain ⟨⟨u, more⟩, step, steps⟩ := Option.bind_eq_some_iff.mp steps
    obtain ⟨⟨v, last⟩, remaining, same⟩ := Option.map_eq_some_iff.mp steps
    cases same
    rw [← List.append_assoc]
    exact ih (run.step step) remaining

/-- Surroundings in which nothing fails. -/
def obliging : Surroundings where
  workingDir := .ok ""
  serverOptions := .ok .unset
  trackerOptions := .error ""
  tracker := ⟨true, "/opt/tracker", "/opt"⟩
  writeConfig _ := .ok ()
  network := ⟨fun _ => some .loopback, fun _ => none, 1⟩
  start _ := .ok 7
  killChild _ := .ok ()

/-- A request to start and the launch that it leads to. -/
def launchInputs (request : Request) : List Input :=
  [.submit request, .poll 0 (.ok ())] ++ List.replicate 11 (.proceed obliging)

/-- The end of a server and the teardown that it leads to, with the end of its relay's task. -/
def exitInputs (generation relay : Nat) : List Input :=
  [.waiterStep generation (.ended (.ended (.code 0))), .poll 0 (.ok ())] ++
    List.replicate 7 (.proceed obliging) ++ [.endTask ⟨relay, .receiving⟩]

end RaceControl.System
