import RaceControl.Proofs.Supervisor.DoneSignals
import RaceControl.Proofs.Supervisor.Exits
import RaceControl.Proofs.Supervisor.Holders
import RaceControl.Proofs.Supervisor.Relays
import RaceControl.Proofs.Supervisor.Replies
import RaceControl.Proofs.Supervisor.Requests

/-!
What is left when the loop has ended because all handles are gone. If the last session could be
stopped, nothing is; if not, its relay is closed and everything else of it stays as it was.
-/
namespace RaceControl

lemma rounds_milestones (seen : List Effect) : rounds (milestones seen) = rounds seen :=
  filterMap_filter_told (by rintro ⟨⟩ <;> simp [Effect.isMilestone, Effect.round?]) seen

lemma launches_milestones (seen : List Effect) : launches (milestones seen) = launches seen :=
  filterMap_filter_told (by rintro ⟨⟩ <;> simp [Effect.isMilestone, launch?]) seen

@[simp] lemma Chapter.rounds_farewell (wrapped : Bool) (relay : Nat) :
    rounds (farewell wrapped relay) = [] := by
  cases wrapped <;> rfl

@[simp] lemma Chapter.rounds_kills (children : List Child) : rounds (kills children) = [] :=
  List.filterMap_eq_nil_iff.mpr (by simp [kills, Effect.round?])

@[simp] lemma Chapter.rounds_signals (channels signalled : List Nat) :
    rounds (signals channels signalled) = [channels] :=
  congrArg (List.cons _) (List.filterMap_eq_nil_iff.mpr (by simp [Effect.round?]))

/-- Every session that a chapter launches has its round of signals in it. -/
lemma Chapter.length_rounds (wrapped : Bool) (chapter : Chapter) :
    (rounds (chapter.milestones wrapped)).length =
      (launches (chapter.milestones wrapped)).length := by
  cases chapter with
  | abortive relay => rfl
  | session relay x spec children channels signalled sent =>
    have farewell : launches (farewell wrapped relay) = [] := by cases wrapped <;> rfl
    have kills : launches (kills children) = [] :=
      List.filterMap_eq_nil_iff.mpr (by simp [Chapter.kills, launch?])
    have signals : launches (signals channels signalled) = [] :=
      List.filterMap_eq_nil_iff.mpr (by simp [Chapter.signals, launch?])
    simp only [milestones, rounds_append, launches_append, farewell, kills, signals,
      rounds_farewell, rounds_kills, rounds_signals]
    rfl

lemma length_rounds_chapters (wrapped : Bool) (chapters : List Chapter) :
    (rounds (chapters.flatMap (·.milestones wrapped))).length =
      (launches (chapters.flatMap (·.milestones wrapped))).length := by
  induction chapters with
  | nil => rfl
  | cons chapter rest ih =>
    rw [List.flatMap_cons, rounds_append, launches_append, List.length_append, List.length_append,
      chapter.length_rounds, ih]

namespace System
variable {s t u : System} {seen more part : List Effect} {wrapped : Bool}

/-- How a loop comes to its end: with nothing left to do, or by giving up its session. -/
inductive Ending (wrapped : Bool) (s : System) (seen : List Effect) : Prop
  | woundUp (chapters : List Chapter) : s.session = none →
    (∀ e, .logged (.shutdownFailed e) ∉ seen) →
    milestones seen = chapters.flatMap (·.milestones wrapped) → Ending wrapped s seen
  | givenUp (chapters : List Chapter) (n) {x} (spec) : s.session = some x →
    .logged (.shutdownFailed .stopTimeout) ∈ seen →
    milestones seen = chapters.flatMap (·.milestones wrapped) ++ Chapter.launch n x spec ++
      [.relayClosed n] → Ending wrapped s seen

lemma Turn.ending {chapters : List Chapter} (turn : s.Turn t more)
    (underway : s.Underway wrapped part)
    (told : milestones seen = chapters.flatMap (·.milestones wrapped) ++ part)
    (quiet : ∀ e, .logged (.shutdownFailed e) ∉ seen) (finished : t.phase = .finished) :
    Ending wrapped t (seen ++ more) := by
  cases turn with
  | @beginVacant u purpose before phase exits session occasion =>
    simp only [Underway, phase] at underway
    rcases underway with ⟨-, rfl⟩ | ⟨n, x, spec, present, -⟩
    · cases occasion with
      | @request request requests queue =>
        obtain ⟨ticket, demand⟩ := request
        cases demand <;> simp [Request.purpose, finishStop, answer, enter] at finished
      | shutdown =>
        refine .woundUp chapters session (by simpa [finishStop] using quiet) ?_
        rw [milestones_append, told, List.append_nil]
        exact List.append_nil _
    · rw [session] at present
      contradiction
  | leave phase exits late tried purpose relay found =>
    simp only [Underway, phase] at underway
    obtain ⟨n, x, spec, session, current, rfl⟩ := underway
    obtain rfl := Option.some.inj (current.symm.trans relay)
    refine .givenUp chapters n spec session (by simp) ?_
    rw [milestones_append, told]
    rfl
  | @tearDown x next phase session =>
    simp only [Underway, phase] at underway
    obtain ⟨n, y, spec, tail, present, torn, rfl⟩ := underway
    obtain rfl := Option.some.inj (session.symm.trans present)
    cases torn with | finish children sent
    -- Of all that can follow a teardown, only the end of the loop leaves it finished.
    cases next with
    | wait | keepStopping => simp [resume, enter] at finished
    | finishStop purpose =>
      cases purpose with
      | stop | relaunch => simp [resume, finishStop, answer, enter] at finished
      | shutdown =>
        refine .woundUp (chapters ++ [.session n x spec children _ _ sent]) rfl
          (by simpa [resume, finishStop] using quiet) ?_
        rw [milestones_append, told, List.flatMap_append, List.flatMap_singleton,
          List.append_assoc]
        refine congrArg _ ?_
        simp only [Chapter.milestones, List.append_assoc]
        rfl
  | staleExit attends =>
    cases attends with
    | waiting phase | stopping phase => simp [phase] at finished
  | _ => simp at finished

variable {settings : Settings} {collaborators : Collaborators}

/-- That the last stop has failed is logged at the end of the loop only. -/
lemma Run.unfinished (run : Run (fresh settings collaborators) s seen)
    (unfinished : s.phase ≠ .finished) (e : SupervisorError) :
    .logged (.shutdownFailed e) ∉ seen := by
  induction run with
  | none => simp
  | @step s t seen more i run step ih =>
    intro shown
    rcases step?_cases run.coherent step with turn | beside | ⟨-, running, destroyed⟩
    · rcases List.mem_append.mp shown with earlier | now
      · exact ih turn.unfinished.1 earlier
      · rcases (turn.belated now .shutdownFailed).2 with ⟨⟨_, _, other⟩, -⟩ | finished
        · cases other
        · exact unfinished finished
    · rcases List.mem_append.mp shown with earlier | now
      · exact ih (beside.phase ▸ unfinished) earlier
      · cases beside.aside _ now
    · cases destroyed
      rcases List.mem_append.mp shown with earlier | now
      · refine ih (fun finished => ?_) earlier
        simp [finished, Phase.isOver] at running
      · simp at now

lemma Ending.beside (ending : Ending wrapped s seen) (beside : s.Beside t more) :
    Ending wrapped t (seen ++ more) := by
  have told : milestones (seen ++ more) = milestones seen := by
    rw [milestones_append, milestones_of_minor beside.minor, List.append_nil]
  cases ending with
  | woundUp chapters session quiet whole =>
    refine .woundUp chapters (beside.session.trans session) (fun e shown => ?_) (told.trans whole)
    rcases List.mem_append.mp shown with before | now
    · exact quiet e before
    · cases beside.aside _ now
  | givenUp chapters n spec session logged whole =>
    exact .givenUp chapters n spec (beside.session.trans session)
      (List.mem_append_left _ logged) (told.trans whole)

lemma Run.ending (run : Run (fresh settings collaborators) s seen)
    (finished : s.phase = .finished) : Ending collaborators.hasWrapper s seen := by
  induction run with
  | none => contradiction
  | @step s t seen more i run step ih =>
    rcases step?_cases run.coherent step with turn | beside | ⟨-, -, destroyed⟩
    · obtain ⟨-, part, ⟨chapters, told⟩, underway⟩ := run.underway
      exact turn.ending underway told (run.unfinished turn.unfinished.1) finished
    · exact (ih (beside.phase ▸ finished)).beside beside
    · cases destroyed
      contradiction

/-- Nothing of any session is left. -/
structure WoundUp (s : System) (seen : List Effect) : Prop where
  atRest : s.AtRest
  /-- Every process that was ever started beside a server has been sent a kill. -/
  killed : kills seen = starts seen
  /-- Every session has been told of to its end, its round of signals included. -/
  told : ∃ chapters : List Chapter,
    milestones seen = chapters.flatMap (·.milestones s.collaborators.hasWrapper)
  signalled : (rounds seen).length = (launches seen).length
  /-- No server runs any more. -/
  ended : s.exits = [] ∧ ∀ server ∈ s.servers, server.waiter = .reported

/-- The last session has been given up, and but for its relay everything of it is left. -/
structure GivenUp (s : System) (seen : List Effect) : Prop where
  occupied : ∃ x e n, Occupied s.session s.shared x e n
  published : s.published = .stopping
  /-- The processes beside its server have not been killed. -/
  left : starts seen = kills seen ++ s.shared.children.tracked
  /-- Of its teardown nothing has been done but that its relay has been closed. -/
  told : ∃ (chapters : List Chapter) (n : Nat) (x : Session) (spec : ProcessSpec),
    milestones seen = chapters.flatMap (·.milestones s.collaborators.hasWrapper) ++
      Chapter.launch n x spec ++ [.relayClosed n]
  unsignalled : (rounds seen).length + 1 = (launches seen).length

/-- What is left when a loop has ended. -/
structure Ended (s : System) (seen : List Effect) : Prop where
  handles : s.handles = 0
  /-- In any case every relay is closed. -/
  relays : s.Shut
  /-- All else depends on whether the last stop has succeeded. -/
  inTime : .logged (.shutdownFailed .stopTimeout) ∉ seen → WoundUp s seen
  late : .logged (.shutdownFailed .stopTimeout) ∈ seen → GivenUp s seen

theorem Run.ended (run : Run (fresh settings collaborators) s seen)
    (finished : s.phase = .finished) : s.Ended seen := by
  have fits := run.coherent.phase
  have custody := run.custody (by simp [finished])
  have awaited := run.awaited (by simp [finished])
  obtain ⟨same, -⟩ := run.underway
  simp only [PhaseFits, finished] at fits
  simp only [inUse?, finished] at custody
  constructor
  · refine run.handles_of_isClosing ?_
    simp only [IsClosing, finished]
  · exact run.shut custody.closed
  · intro quiet
    cases run.ending finished with
    | woundUp chapters session _ told =>
      rcases fits with ⟨machine, vacant⟩ | ⟨-, x, e, n, occupied⟩
      · refine ⟨⟨vacant, run.coherent.published.trans machine⟩, ?_, ⟨chapters, ?_⟩, ?_, ?_⟩
        · rw [run.book, vacant.children, List.append_nil]
        · rw [told, same]
        · rw [← rounds_milestones, ← launches_milestones, told, length_rounds_chapters]
        · simp only [expected, finished, session] at awaited
          generalize s.exits = exits at awaited ⊢
          cases awaited with
          | nobody all => exact ⟨rfl, all⟩
      · rw [occupied.session] at session
        contradiction
    | givenUp chapters n spec session logged => exact absurd logged quiet
  · intro logged
    cases run.ending finished with
    | woundUp chapters session quiet => exact absurd logged (quiet _)
    | @givenUp chapters n x spec session _ told =>
      rcases fits with ⟨-, vacant⟩ | ⟨machine, x', e, n', occupied⟩
      · rw [vacant.session] at session
        contradiction
      · refine ⟨⟨x', e, n', occupied⟩, run.coherent.published.trans machine, run.book,
          ⟨chapters, n, x, spec, by rw [told, same]⟩, ?_⟩
        rw [← rounds_milestones, ← launches_milestones, told, List.append_assoc, rounds_append,
          launches_append, List.length_append, List.length_append, length_rounds_chapters]
        rfl

/-- A supervisor that gives its server ten seconds to end, but gives up after a twentieth of one. -/
def hasty : Settings := { accompanied with stopGrace := 10000, stopTimeout := 50 }

/-- A session with one plugin and one channel; the last handle is dropped while it runs, and its
server does not end in time. -/
def desertion : List Input :=
  [.openChannel 4, .submit ⟨1, .start ⟨"race"⟩ (.direct ":9000" 9001)⟩, .poll 0 (.ok ())] ++
    List.replicate 13 (.proceed meagre) ++
    [.dropHandle, .poll 1000 (.ok ()), .poll 1050 (.ok ())]

/-- The loop ends with the session as it was: its plugin has not been killed, and nobody has been
signalled. -/
theorem ended_hasty :
    ∃ s seen, Run (fresh hasty ⟨false, false⟩) s seen ∧ s.phase = .finished ∧ s.Ended seen ∧
      s.GivenUp seen ∧ s.session = some ⟨1, 7⟩ ∧ kills seen = [] ∧
      starts seen = [⟨0, "weather", 7⟩] ∧ launches seen = [1] ∧ rounds seen = [] := by
  obtain ⟨⟨s, seen⟩, steps, finished, session, told⟩ : ∃ out ∈
      (fresh hasty ⟨false, false⟩).steps? desertion, out.1.phase = .finished ∧
      out.1.session = some ⟨1, 7⟩ ∧ kills out.2 = [] ∧ starts out.2 = [⟨0, "weather", 7⟩] ∧
      launches out.2 = [1] ∧ rounds out.2 = [] := by
    refine ⟨_, rfl, ?_, ?_, ?_, ?_, ?_, ?_⟩ <;> decide
  have run := Run.none.steps steps
  have ended := run.ended finished
  refine ⟨s, seen, run, finished, ended, ?_, session, told⟩
  by_contra kept
  have woundUp := ended.inTime fun logged => kept (ended.late logged)
  rw [woundUp.atRest.vacant.session] at session
  contradiction

/-- So the end of the loop is not always the end of everything that it has started. -/
theorem not_forall_woundUp :
    ¬∀ settings collaborators s seen, Run (fresh settings collaborators) s seen →
      s.phase = .finished →
        s.session = none ∧ (∀ relay ∈ s.relays, relay.isOpen = false) ∧
          kills seen = starts seen ∧ (rounds seen).length = (launches seen).length := by
  intro all
  obtain ⟨⟨s, seen⟩, steps, finished, session⟩ : ∃ out ∈
      (fresh hasty ⟨false, false⟩).steps? desertion, out.1.phase = .finished ∧
      out.1.session = some ⟨1, 7⟩ := by
    refine ⟨_, rfl, ?_, ?_⟩ <;> decide
  obtain ⟨none, -⟩ := all _ _ s seen (Run.none.steps steps) finished
  rw [none] at session
  contradiction

end System
end RaceControl
