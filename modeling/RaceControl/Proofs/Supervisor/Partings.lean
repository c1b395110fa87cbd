import RaceControl.Proofs.Supervisor.Relays
import RaceControl.Proofs.Supervisor.Shutdown
import RaceControl.Proofs.Supervisor.Transitions

/-!
The end of a session whose server has ended. Once its exit waits, the loop tears the session down
step by step, whatever else it was about to do, and nothing of it is left.
-/
namespace RaceControl

/-- Where the loop goes on once an exit has been dealt with. -/
def Resumption.sequel : Resumption → Phase
  | .wait | .finishStop (.stop _) => .waiting
  | .finishStop (.relaunch ticket event addressing) =>
    .launching ⟨ticket, event, addressing, .announce⟩
  | .finishStop .shutdown => .finished
  | .keepStopping stop => .stopping stop

/-- A teardown that has come to a stage, where callers see the relay `current` and the processes
`tracked` are left: how many steps the loop has taken since the exit waited, and what was seen of
it. The session had the relay `n` and these processes beside its server. -/
inductive Closing (wrapped : Bool) (n : Nat) (children : List Child) (current : Option Nat)
    (tracked : List Child) : TeardownStage → Nat → List Effect → Prop
  | forget : current = some n → tracked = children →
    Closing wrapped n children current tracked .forget 1 []
  | closeRelay : tracked = children →
    Closing wrapped n children current tracked (.closeRelay (some n)) 2 []
  | stopWrapper : tracked = children →
    Closing wrapped n children current tracked .stopWrapper 3 [.relayClosed n]
  | killChildren : tracked = children →
    Closing wrapped n children current tracked .killChildren 4 (Chapter.farewell wrapped n)
  | prune :
    Closing wrapped n children current tracked .prune 5
      (Chapter.farewell wrapped n ++ Chapter.kills children)
  | signal {channels visited rest signalled : List Nat} {count : Nat} : visited ++ rest = channels →
    signalled.Sublist visited → count = 6 + visited.length →
    Closing wrapped n children current tracked (.signal rest) count
      (Chapter.farewell wrapped n ++ Chapter.kills children ++ Chapter.signals channels signalled)
  | finish {channels signalled : List Nat} {count : Nat} : signalled.Sublist channels →
    count = 7 + channels.length →
    Closing wrapped n children current tracked .finish count
      (Chapter.farewell wrapped n ++ Chapter.kills children ++ Chapter.signals channels signalled)

/-- A teardown takes seven steps before the last one, besides those of its round of signals. -/
lemma Closing.brief {wrapped : Bool} {n count : Nat} {children tracked : List Child}
    {current : Option Nat} {stage : TeardownStage} {told : List Effect}
    (closing : Closing wrapped n children current tracked stage count told) :
    count ≤ 7 + (rounds told).flatten.length := by
  cases closing with
  | forget | closeRelay | stopWrapper | killChildren | prune => omega
  | signal whole sent after =>
    subst whole after
    simp
    omega
  | finish sent after => simp [after]

namespace System
variable {start s t u : System} {seen more told : List Effect} {passed : List Transit} {x : Session}
  {wrapped : Bool} {n count : Nat} {children : List Child} {i : Input}

lemma resume_phase (s : System) (next : Resumption) : (s.resume next).1.phase = next.sequel := by
  cases next with
  | wait | keepStopping => rfl
  | finishStop purpose => cases purpose <;> rfl

/-- The steps that the loop takes one after another as long as the session is there; what others do
meanwhile goes beside them. -/
inductive Parting (x : Session) (start : System) : System → List Transit → Prop
  | none : Parting x start start []
  | own {s t : System} {passed : List Transit} {i : Input} {more : List Effect} :
    Parting x start s passed → s.session = some x → i.isOwn = true → s.step? i = some (t, more) →
    Parting x start t (passed ++ [⟨s, i, t, more⟩])
  | beside {s t : System} {passed : List Transit} {i : Input} {more : List Effect} :
    Parting x start s passed → i.isOwn = false → i ≠ .destroy → s.step? i = some (t, more) →
    Parting x start t passed

/-- What a step of a teardown comes to: its next stage, or the end of the session. -/
inductive Closes (wrapped : Bool) (n : Nat) (children : List Child) (x : Session)
    (next : Resumption) (t : System) (count : Nat) (told more : List Effect) : Prop
  | goesOn {later} : t.phase = .tearingDown later next → t.session = some x →
    Closing wrapped n children t.shared.relay t.shared.children.tracked later (count + 1)
      (told ++ milestones more) → transitions more = [] →
    Closes wrapped n children x next t count told more
  | ends {channels signalled : List Nat} : t.phase = next.sequel → t.session = .none →
    t.published = .idle → signalled.Sublist channels → count + 1 = 8 + channels.length →
    told ++ milestones more = Chapter.farewell wrapped n ++ Chapter.kills children ++
      Chapter.signals channels signalled ++ [.tornDown x.generation] →
    transitions more = [(.tearingDown, .idle)] →
    Closes wrapped n children x next t count told more

lemma Turn.closes {stage : TeardownStage} {next : Resumption} (turn : s.Turn t more)
    (phase : s.phase = .tearingDown stage next) (session : s.session = some x)
    (wrapper : s.collaborators.hasWrapper = wrapped)
    (closing : Closing wrapped n children s.shared.relay s.shared.children.tracked stage count
      told) : Closes wrapped n children x next t count told more := by
  have silent (told : List Effect) : told ++ milestones [] = told := List.append_nil told
  cases turn with
  | forget here =>
    obtain ⟨rfl, rfl⟩ := Phase.tearingDown.inj (here.symm.trans phase)
    cases closing with
    | forget relay tracked =>
      refine .goesOn rfl session ?_ rfl
      rw [relay]
      exact .closeRelay tracked
  | closeRelay here =>
    obtain ⟨rfl, rfl⟩ := Phase.tearingDown.inj (here.symm.trans phase)
    cases closing with
    | closeRelay tracked => exact .goesOn rfl session (.stopWrapper tracked) rfl
  | stopWrapper here =>
    obtain ⟨rfl, rfl⟩ := Phase.tearingDown.inj (here.symm.trans phase)
    cases closing with
    | stopWrapper tracked =>
      rw [wrapper]
      cases wrapped <;> exact .goesOn rfl session (.killChildren tracked) rfl
  | killChildren env here =>
    obtain ⟨rfl, rfl⟩ := Phase.tearingDown.inj (here.symm.trans phase)
    cases closing with
    | killChildren tracked =>
      refine .goesOn rfl session ?_ ?_
      · rw [milestones_killing, tracked]
        exact .prune
      · exact transitions_killing _
  | prune here =>
    obtain ⟨rfl, rfl⟩ := Phase.tearingDown.inj (here.symm.trans phase)
    cases closing with
    | prune => exact .goesOn rfl session (.signal rfl (.refl []) rfl) rfl
  | @signal number rest _ here =>
    obtain ⟨rfl, rfl⟩ := Phase.tearingDown.inj (here.symm.trans phase)
    cases closing with
    | @signal channels visited _ signalled _ whole sent after =>
      have visits : visited ++ [number] ++ rest = visited ++ number :: rest := by simp
      have later : count + 1 = 6 + (visited ++ [number]).length := by simp [after]; omega
      rcases s.signal_snd number with none | one
      · rw [none]
        have longer := sent.trans (List.sublist_append_left visited [number])
        refine .goesOn rfl session ?_ rfl
        rw [silent]
        exact .signal (visits.trans whole) longer later
      · rw [one]
        have longer := sent.append (List.Sublist.refl [number])
        refine .goesOn rfl session ?_ rfl
        have told : Chapter.signals channels signalled ++ milestones [.signalled number] =
            Chapter.signals (visited ++ [number] ++ rest) (signalled ++ [number]) := by
          simp [Chapter.signals, milestones, Effect.isMilestone, ← whole]
        rw [List.append_assoc, told]
        exact .signal rfl longer later
  | signalled here =>
    obtain ⟨rfl, rfl⟩ := Phase.tearingDown.inj (here.symm.trans phase)
    cases closing with
    | signal whole sent after =>
      rw [List.append_nil] at whole
      subst whole
      refine .goesOn rfl session ?_ rfl
      rw [silent]
      exact .finish sent (by omega)
  | @tearDown y following here present =>
    obtain ⟨rfl, rfl⟩ := Phase.tearingDown.inj (here.symm.trans phase)
    obtain rfl := Option.some.inj (session.symm.trans present)
    let rest : System := { s with machine := .idle, published := .idle, session := none }
    obtain ⟨_, _, resumed⟩ := resume_fst rest following
    have told : milestones (rest.resume following).2 = [] := milestones_of_minor (minor_resume _)
    have still : transitions (rest.resume following).2 = [] := transitions_of_minor (minor_resume _)
    cases closing with
    | finish sent after =>
      refine .ends (resume_phase _ _) ?_ ?_ sent (by omega) ?_ ?_
      · rw [resumed]
      · rw [resumed]
      · exact congrArg _ (congrArg (List.cons _) told)
      · exact congrArg (List.cons _) still
  | exit attends | staleExit attends =>
    cases attends with
    | waiting other | stopping other => simp [phase] at other
  | _ => simp_all only [reduceCtorEq]

/-- What is remembered beyond a session, and the numbers that are given to the next ones. -/
structure Retains (s t : System) : Prop where
  collaborators : t.collaborators = s.collaborators
  lastEvent : t.shared.lastEvent = s.shared.lastEvent
  addressing : t.shared.addressing = s.shared.addressing
  nextGeneration : t.nextGeneration = s.nextGeneration

lemma Retains.refl (s : System) : Retains s s := ⟨rfl, rfl, rfl, rfl⟩

lemma Retains.trans (first : Retains s t) (second : Retains t u) : Retains s u where
  collaborators := second.collaborators.trans first.collaborators
  lastEvent := second.lastEvent.trans first.lastEvent
  addressing := second.addressing.trans first.addressing
  nextGeneration := second.nextGeneration.trans first.nextGeneration

lemma Beside.retains (beside : s.Beside t more) : Retains s t where
  collaborators := beside.collaborators
  lastEvent := beside.lastEvent
  addressing := beside.addressing
  nextGeneration := beside.nextGeneration

/-- Only a launch uses a generation up. -/
lemma Turn.retains (turn : s.Turn t more) (idle : ∀ l, s.phase ≠ .launching l) : Retains s t where
  collaborators := turn.collaborators
  lastEvent := (turn.outside idle).lastEvent
  addressing := (turn.outside idle).addressing
  nextGeneration := by
    cases turn with
    | announce phase | findDirectory phase | loadOptions phase | openRelay phase
    | startServer phase | fail phase | adopt phase | requestWrapper phase | auxiliary phase
    | activate phase => exact absurd phase (idle _)
    | beginVacant phase quiet session occasion =>
      obtain ⟨_, _, _, finished⟩ := occasion.finishStop_fst
      rw [finished]
    | beginStop now phase quiet session occasion =>
      obtain ⟨_, rfl⟩ := occasion.fst
      rfl
    | @tearDown x next phase session =>
      obtain ⟨_, _, resumed⟩ := s.tearDown_fst next
      rw [resumed]
    | _ => rfl

/-- What others do takes no exit out of the queue. -/
lemma Move.exits (move : s.Move i t more) (other : i.isOwn = false) : s.exits <+: t.exits := by
  cases move with
  | turn own turn =>
    rw [other] at own
    contradiction
  | enter | refuse | hangUp | notice | destroy => exact List.prefix_refl _
  | report => exact List.prefix_append ..
  | apart detached apart => exact apart.exits ▸ List.prefix_refl _

/-- Where callers are told that the supervisor is idle, and no session is left, nothing else is. -/
lemma Coherent.atRest (coherent : s.Coherent) (session : s.session = none)
    (published : s.published = .idle) : s.AtRest := by
  have presentable := coherent.presentable
  obtain ⟨event, children⟩ := presentable.idle published
  have relay := presentable.relay_iff
  rw [event] at relay
  exact ⟨⟨session, event, by simpa using relay, children⟩, published⟩

/-- A loop that waits while a session is there lets callers see all of it. -/
lemma Coherent.occupied (coherent : s.Coherent) (awaits : s.phase.awaits = true)
    (session : s.session = some x) : ∃ e n, Occupied s.session s.shared x e n := by
  have fits := coherent.phase
  cases phase : s.phase with
  | waiting =>
    simp only [PhaseFits, phase] at fits
    rcases fits with ⟨-, vacant⟩ | ⟨-, y, e, n, occupied, -⟩
    · rw [vacant.session] at session
      contradiction
    · obtain rfl := Option.some.inj (occupied.session.symm.trans session)
      exact ⟨e, n, occupied⟩
  | stopping stop =>
    simp only [PhaseFits, phase] at fits
    obtain ⟨-, e, n, occupied, -⟩ := fits
    obtain rfl := Option.some.inj (occupied.session.symm.trans session)
    exact ⟨e, n, occupied⟩
  | _ =>
    rw [phase] at awaits
    contradiction

/-- How far it is with the end of the session whose exit waits at `start`. -/
inductive Departing (x : Session) (n : Nat) (start s : System) (passed : List Transit) : Prop
  | staying {exit exits} : passed = [] → s.phase = start.phase → s.exits = exit :: exits →
    s.session = some x → s.published = start.published → s.shared.relay = some n →
    s.shared.children.tracked = start.shared.children.tracked → Departing x n start s passed
  | leaving {stage next} : start.Attends next → s.phase = .tearingDown stage next →
    s.session = some x → .exitHandled x.generation false ∈ shownIn passed →
    Closing start.collaborators.hasWrapper n start.shared.children.tracked s.shared.relay
      s.shared.children.tracked stage passed.length (milestones (shownIn passed)) →
    transitions (shownIn passed) = [(start.published, .tearingDown)] →
    Departing x n start s passed
  | gone {next} {channels signalled : List Nat} : start.Attends next → s.phase = next.sequel →
    s.session = none → s.published = .idle → .exitHandled x.generation false ∈ shownIn passed →
    signalled.Sublist channels → passed.length = 8 + channels.length →
    milestones (shownIn passed) = Chapter.farewell start.collaborators.hasWrapper n ++
      Chapter.kills start.shared.children.tracked ++ Chapter.signals channels signalled ++
        [.tornDown x.generation] →
    transitions (shownIn passed) = [(start.published, .tearingDown), (.tearingDown, .idle)] →
    Departing x n start s passed

lemma Departing.beside (departing : Departing x n start s passed) (beside : s.Beside t more)
    (exits : s.exits <+: t.exits) : Departing x n start t passed := by
  cases departing with
  | staying none phase queue session published relay tracked =>
    obtain ⟨later, queued⟩ := exits
    rw [queue, List.cons_append] at queued
    exact .staying none (beside.phase.trans phase) queued.symm (beside.session.trans session)
      (beside.published.trans published) (beside.relay.trans relay)
      ((congrArg _ beside.children).trans tracked)
  | leaving attends phase session handled closing walked =>
    refine .leaving attends (beside.phase.trans phase) (beside.session.trans session) handled ?_
      walked
    rwa [beside.relay, beside.children]
  | gone attends phase session published handled sent length told walked =>
    exact .gone attends (beside.phase.trans phase) (beside.session.trans session)
      (beside.published.trans published) handled sent length told walked

/-- The loop goes on where nothing of a session is expected or in use that is not there. -/
lemma Attends.sequel {next : Resumption} (attends : start.Attends next)
    (phase : s.phase = next.sequel) :
    s.phase ≠ .destroyed ∧ s.expected = s.session ∧ (s.shared.relay = none → s.inUse? = none) := by
  cases attends with
  | waiting => simp [System.expected, inUse?, phase, Resumption.sequel]
  | @stopping stop =>
    cases purpose : stop.purpose <;>
      simp [System.expected, inUse?, phase, purpose, Resumption.sequel]

lemma Attends.of_phase {next : Resumption} (attends : s.Attends next)
    (phase : s.phase = start.phase) : start.Attends next := by
  cases attends with
  | waiting here => exact .waiting (phase.symm.trans here)
  | stopping here => exact .stopping (phase.symm.trans here)

variable {settings : Settings} {collaborators : Collaborators}

lemma Departing.turn (departing : Departing x n start s passed)
    (run : Run (fresh settings collaborators) s seen) (awaits : start.phase.awaits = true)
    (same : s.collaborators = start.collaborators) (session : s.session = some x)
    (turn : s.Turn t more) : Departing x n start t (passed ++ [⟨s, i, t, more⟩]) := by
  cases departing with
  | @staying exit exits none phase queue _ published relay tracked =>
    subst none
    have waits : s.phase.awaits = true := phase ▸ awaits
    have coherent := run.coherent
    -- An exit comes before requests and time limits, and it is never that of an older session.
    cases turn with
    | @exit exit exits next y attends queue present generation =>
      obtain rfl := Option.some.inj (session.symm.trans present)
      have warned := incidental_exitWarning exit
      refine .leaving (attends.of_phase phase) rfl session ?_ ?_ ?_
      · rw [generation]
        simp [shownIn]
      · rw [List.nil_append, shownIn_singleton, milestones_append,
          milestones_of_minor (.of_incidental warned)]
        exact .forget relay tracked
      · rw [List.nil_append, shownIn_singleton, transitions_append,
          transitions_of_minor (.of_incidental warned), ← published, coherent.published]
        rfl
    | staleExit attends queue stale =>
      obtain ⟨y, present, current⟩ := run.current attends queue
      exact absurd current (stale y present)
    | beginVacant here quiet | beginStop now here quiet | kill here quiet | giveUp here quiet
    | leave here quiet =>
      rw [queue] at quiet
      contradiction
    | announce here | findDirectory here | loadOptions here | openRelay here | startServer here
    | fail here | adopt here | requestWrapper here | auxiliary here | activate here | forget here
    | closeRelay here | stopWrapper here | killChildren env here | prune here | signal here
    | signalled here | tearDown here =>
      rw [here] at waits
      contradiction
  | leaving attends phase _ handled closing walked =>
    have handled : .exitHandled x.generation false ∈ shownIn (passed ++ [⟨s, i, t, more⟩]) := by
      rw [shownIn_append]
      exact List.mem_append_left _ handled
    have told : milestones (shownIn (passed ++ [⟨s, i, t, more⟩])) =
        milestones (shownIn passed) ++ milestones more := by
      rw [shownIn_append, shownIn_singleton, milestones_append]
    have walk : transitions (shownIn (passed ++ [⟨s, i, t, more⟩])) =
        (start.published, .tearingDown) :: transitions more := by
      rw [shownIn_append, shownIn_singleton, transitions_append, walked]
      rfl
    cases turn.closes phase session (congrArg _ same) closing with
    | goesOn phase session closing still =>
      refine .leaving attends phase session handled ?_ (walk.trans (by rw [still]))
      rwa [told, List.length_append]
    | ends phase none published sent count whole last =>
      exact .gone attends phase none published handled sent
        (List.length_append.trans count) (told.trans whole) (walk.trans (by rw [last]))
  | gone attends phase none =>
    rw [none] at session
    contradiction

lemma Parting.departing (parting : Parting x start s passed)
    (run : Run (fresh settings collaborators) start seen) (awaits : start.phase.awaits = true)
    (session : start.session = some x) (relay : start.shared.relay = some n)
    (waits : start.exits ≠ []) :
    (∃ seen, Run (fresh settings collaborators) s seen) ∧ Retains start s ∧
      Departing x n start s passed := by
  induction parting with
  | none =>
    obtain ⟨exit, exits, queue⟩ := List.exists_cons_of_ne_nil waits
    exact ⟨⟨seen, run⟩, .refl start, .staying rfl rfl queue session rfl relay rfl⟩
  | @own s t passed i more parting present own step ih =>
    obtain ⟨⟨seen, running⟩, retains, departing⟩ := ih
    have turn := (step?_move running.coherent step).toTurn own
    have idle (l : Launch) : s.phase ≠ .launching l := by
      cases departing with
      | staying _ phase =>
        rintro launching
        rw [← phase, launching] at awaits
        contradiction
      | leaving _ phase => simp [phase]
      | gone _ _ none =>
        rw [none] at present
        contradiction
    exact ⟨⟨_, running.step step⟩, retains.trans (turn.retains idle),
      departing.turn running awaits retains.collaborators present turn⟩
  | beside parting other alive step ih =>
    obtain ⟨⟨seen, running⟩, retains, departing⟩ := ih
    have move := step?_move running.coherent step
    have beside := move.beside other alive
    exact ⟨⟨_, running.step step⟩, retains.trans beside.retains,
      departing.beside beside (move.exits other)⟩

/-- What is left of a session that has been torn down, and what was seen of it. -/
structure TornDown (x : Session) (n : Nat) (start s : System) (passed : List Transit) : Prop where
  /-- Whoever waited for the end of the session is served now. -/
  sequel : ∃ next, start.Attends next ∧ s.phase = next.sequel
  atRest : s.AtRest
  ended : s.exits = [] ∧ ∀ server ∈ s.servers, server.waiter = .reported
  closed : s.Shut
  retains : Retains start s
  handled : .exitHandled x.generation false ∈ shownIn passed
  walked : transitions (shownIn passed) = [(start.published, .tearingDown), (.tearingDown, .idle)]
  told : ∃ channels signalled : List Nat, signalled.Sublist channels ∧
    milestones (shownIn passed) = Chapter.farewell start.collaborators.hasWrapper n ++
      Chapter.kills start.shared.children.tracked ++ Chapter.signals channels signalled ++
        [.tornDown x.generation]

/-- How a session comes to its end whose exit waits at `start`. -/
structure Departure (x : Session) (n : Nat) (start s : System) (passed : List Transit) : Prop where
  /-- As long as the session is there the next step of the loop is due, whatever it meets with. -/
  begins : s.session = some x → passed = [] → ∀ now kill, (s.step? (.poll now kill)).isSome = true
  goesOn : s.session = some x → passed ≠ [] → ∀ env, (s.step? (.proceed env)).isSome = true
  /-- Eight steps are enough, with one for each channel of the round of signals. -/
  brief : passed.length ≤ 8 + (rounds (shownIn passed)).flatten.length
  ended : s.session ≠ some x → TornDown x n start s passed

lemma Parting.departure (parting : Parting x start s passed)
    (run : Run (fresh settings collaborators) start seen) (awaits : start.phase.awaits = true)
    (session : start.session = some x) (relay : start.shared.relay = some n)
    (waits : start.exits ≠ []) : Departure x n start s passed := by
  obtain ⟨⟨seen, running⟩, retains, departing⟩ :=
    parting.departing run awaits session relay waits
  constructor
  · rintro present rfl now kill
    cases departing with
    | staying _ phase queue =>
      cases here : s.phase with
      | waiting => simp [step?, poll, here, pollQueues, queue]
      | stopping stop => simp [step?, poll, here, pollStop, queue]
      | _ =>
        rw [← phase, here] at awaits
        contradiction
    | leaving _ _ _ handled => simp at handled
    | gone _ _ none =>
      rw [none] at present
      contradiction
  · intro present begun env
    cases departing with
    | staying none => exact absurd none begun
    | leaving _ phase => simp [step?, proceed, phase]
    | gone _ _ none =>
      rw [none] at present
      contradiction
  · rw [← rounds_milestones]
    cases departing with
    | staying none => simp [none]
    | leaving _ _ _ _ closing =>
      have brief := closing.brief
      omega
    | gone _ _ _ _ _ _ length told =>
      have last : rounds [.tornDown x.generation] = [] := rfl
      rw [told, length]
      simp [last]
  · intro left
    cases departing with
    | staying _ _ _ present | leaving _ _ present => exact absurd present left
    | gone attends phase none published handled sent _ told walked =>
      have atRest := running.coherent.atRest none published
      obtain ⟨alive, expected, inUse⟩ := attends.sequel phase
      have awaited := running.awaited alive
      have custody := running.custody alive
      rw [expected, none] at awaited
      rw [inUse atRest.vacant.relay] at custody
      refine ⟨⟨_, attends, phase⟩, atRest, ?_, ?_, retains, handled, walked, _, _, sent, told⟩
      · generalize s.exits = exits at awaited ⊢
        cases awaited with
        | nobody all => exact ⟨rfl, all⟩
      · exact running.shut custody.closed

end System
end RaceControl
