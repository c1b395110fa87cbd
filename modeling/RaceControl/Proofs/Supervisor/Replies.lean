import RaceControl.Proofs.Supervisor.Effects

/-!
The answer to a request tells what has become of the session: the control loop answers a request
only when it has come to rest, and the answer says in which way.
-/
namespace RaceControl.System
variable {s t u start : System} {shown more : List Effect} {env : Surroundings} {l : Launch}
  {request : Request}

/-- A request from the step that takes it up to the step after which the loop waits again, with all
that happens in between. -/
inductive Handling (start : System) (request : Request) : System → List Effect → Prop
  | take {s more i} : start.phase = .waiting → start.step? i = some (s, more) →
    .took request ∈ more → Handling start request s more
  | next {s t shown more i} : Handling start request s shown → s.phase ≠ .waiting → i ≠ .destroy →
    s.step? i = some (t, more) → Handling start request t (shown ++ more)

/-- Nothing of a session is left, and callers are told so. -/
structure AtRest (s : System) : Prop where
  vacant : Vacant s.session s.shared
  published : s.published = .idle

/-- What an answer says of the state in which it is given, where the request was taken up at
`start`. -/
def Truthful (start : System) (request : Request) (s : System) : Except SupervisorError Unit → Prop
  | .ok () =>
    match request.demand with
    | .start e addressing =>
      s.session.isSome = true ∧ s.shared.event = some e ∧ s.shared.addressing = addressing ∧
        s.published = .active
    | .stop => s.AtRest
  | .error e =>
    if e.isAmbiguous then
      e = .stopTimeout ∧ start.session.isSome = true ∧ s.session = start.session ∧
        s.published = .stopping
    else s.AtRest

/-- What the loop does for a request while it handles it. -/
def WorksFor (s start : System) (request : Request) : Prop :=
  match s.phase with
  | .waiting => True
  | .launching l => request = ⟨l.ticket, .start l.event l.addressing⟩
  | .stopping stop => stop.purpose = request.purpose ∧ start.session = some stop.session
  | .tearingDown _ next => next = .finishStop request.purpose
  | .finished | .destroyed => False

/-- What a step does for the request that is being handled. -/
structure Handles (start : System) (request : Request) (s : System) (more : List Effect) :
    Prop where
  phase : s.WorksFor start request
  answer : ∀ ticket result isHeard, .answered ticket result isHeard ∈ more →
    ticket = request.ticket ∧ s.phase = .waiting ∧ Truthful start request s result

/-- Whether an effect answers no request. -/
def IsSilent (effect : Effect) : Prop :=
  ∀ ticket result isHeard, effect ≠ .answered ticket result isHeard

lemma isSilent_of_incidental {effect : Effect} (incidental : Incidental effect) :
    IsSilent effect := by
  rintro ticket result isHeard rfl
  cases incidental

lemma Handles.silent (phase : s.WorksFor start request)
    (silent : ∀ effect ∈ more, IsSilent effect) : Handles start request s more :=
  ⟨phase, fun ticket result isHeard answered =>
    absurd rfl (silent _ answered ticket result isHeard)⟩

lemma handles_finishStop (vacant : Vacant u.session u.shared) (published : u.published = .idle) :
    Handles start request (u.finishStop request.purpose).1 (u.finishStop request.purpose).2 := by
  obtain ⟨ticket, demand⟩ := request
  cases demand with
  | start e addressing => exact .silent rfl (by simp [Request.purpose, finishStop])
  | stop =>
    refine ⟨trivial, fun ticket result isHeard answered => ?_⟩
    cases List.mem_singleton.mp answered
    exact ⟨rfl, rfl, vacant, published⟩

lemma Occasion.silent {purpose : Purpose} {before : List Effect}
    (occasion : Occasion s u purpose before) : ∀ effect ∈ before, IsSilent effect := by
  cases occasion <;> simp [IsSilent]

lemma LaunchFailure.isAmbiguous {cleanup : List Effect} {cause : SupervisorError}
    (failure : LaunchFailure s env l u cleanup cause) : cause.isAmbiguous = false := by
  cases failure <;> rfl

lemma LaunchFailure.silent {cleanup : List Effect} {cause : SupervisorError}
    (failure : LaunchFailure s env l u cleanup cause) : ∀ effect ∈ cleanup, IsSilent effect := by
  cases failure <;> simp [IsSilent]

lemma ticket_of_purpose {ticket : Nat}
    (purpose : request.purpose = .stop ticket ∨ ∃ e a, request.purpose = .relaunch ticket e a) :
    ticket = request.ticket := by
  obtain ⟨number, demand⟩ := request
  cases demand with
  | start e addressing =>
    obtain same | ⟨e, a, same⟩ := purpose
    · cases same
    · cases same
      rfl
  | stop =>
    obtain same | ⟨e, a, same⟩ := purpose
    · cases same
      rfl
    · cases same

lemma purpose_ne_shutdown (request : Request) : request.purpose ≠ .shutdown := by
  obtain ⟨ticket, demand⟩ := request
  cases demand <;> simp [Request.purpose]

/-- A turn that leaves the loop at work answers nobody. -/
lemma Turn.silent (turn : s.Turn t more) (busy : t.phase ≠ .waiting) :
    ∀ effect ∈ more, IsSilent effect := by
  cases turn with
  | auxiliary phase start =>
    exact fun effect shown => isSilent_of_incidental (start.incidental effect shown)
  | fail | activate | giveUp => exact absurd rfl busy
  | @beginVacant u purpose before phase quiet session occasion =>
    refine List.forall_mem_append.mpr ⟨occasion.silent, ?_⟩
    cases purpose with
    | stop ticket => exact absurd rfl busy
    | relaunch | shutdown => simp [finishStop, IsSilent]
  | beginStop now phase quiet session occasion =>
    refine List.forall_mem_append.mpr ⟨occasion.silent, ?_⟩
    split <;> simp [IsSilent]
  | exit | staleExit =>
    exact List.forall_mem_append.mpr ⟨fun effect shown =>
      isSilent_of_incidental (incidental_exitWarning _ effect shown), by simp [IsSilent]⟩
  | kill =>
    exact fun effect shown => isSilent_of_incidental (incidental_forceKill _ _ effect shown)
  | stopWrapper => split <;> simp [IsSilent]
  | killChildren env phase =>
    exact forall_killing (by simp [IsSilent]) (by simp [IsSilent]) fun _ => isSilent_of_incidental
  | @signal number rest next phase =>
    rcases s.signal_snd number with none | one
    · simp [none]
    · simp [one, IsSilent]
  | @tearDown x next phase session =>
    cases next with
    | wait => exact absurd rfl busy
    | finishStop purpose =>
      cases purpose with
      | stop ticket => exact absurd rfl busy
      | relaunch | shutdown => simp [resume, finishStop, IsSilent]
    | keepStopping stop => simp [resume, IsSilent]
  | announce | findDirectory | loadOptions | openRelay | startServer | adopt | requestWrapper
  | leave | forget | closeRelay | prune | signalled => simp [IsSilent]

lemma Turn.handles (turn : s.Turn t more) (coherent : s.Coherent) (busy : s.phase ≠ .waiting)
    (working : s.WorksFor start request) : Handles start request t more := by
  have fits := coherent.phase
  have silent := turn.silent
  cases turn with
  | announce phase | findDirectory phase | loadOptions phase | openRelay phase | startServer phase
  | adopt phase | requestWrapper phase | auxiliary phase | kill phase | forget phase
  | closeRelay phase | stopWrapper phase | killChildren env phase | prune phase | signal phase
  | signalled phase =>
    simp only [WorksFor, phase] at working
    exact .silent working (silent (by simp))
  | fail phase failure =>
    simp only [WorksFor, phase] at working
    simp only [PhaseFits, phase] at fits
    subst working
    have vacant := failure.vacant fits
    refine ⟨trivial, fun ticket result isHeard answered => ?_⟩
    rcases List.mem_append.mp answered with answered | answered
    · exact absurd rfl (failure.silent _ answered ticket result isHeard)
    · obtain ⟨rfl, rfl, -⟩ : ticket = _ ∧ result = .error _ ∧ isHeard = _ := by
        simpa using answered
      refine ⟨rfl, rfl, ?_⟩
      rw [Truthful, failure.isAmbiguous]
      exact ⟨vacant, rfl⟩
  | activate phase stage =>
    simp only [WorksFor, phase] at working
    simp only [PhaseFits, phase, LaunchFits, stage] at fits
    obtain ⟨machine, addressing, x, n, occupied, -⟩ := fits
    subst working
    refine ⟨trivial, fun ticket result isHeard answered => ?_⟩
    obtain ⟨rfl, rfl, -⟩ : ticket = _ ∧ result = .ok () ∧ isHeard = _ := by simpa using answered
    exact ⟨rfl, rfl, by simp [occupied.session], occupied.event, addressing, rfl⟩
  | beginVacant phase | beginStop now phase => exact absurd phase busy
  | exit attends =>
    cases attends with
    | waiting phase => exact absurd phase busy
    | stopping phase =>
      simp only [WorksFor, phase] at working
      exact .silent (congrArg _ working.1) (silent (by simp))
  | staleExit => exact .silent working (silent busy)
  | giveUp phase quiet late tried purpose =>
    simp only [WorksFor, phase] at working
    simp only [PhaseFits, phase] at fits
    obtain ⟨machine, e, n, occupied, -⟩ := fits
    obtain ⟨same, session⟩ := working
    rw [same] at purpose
    refine ⟨trivial, fun ticket result isHeard answered => ?_⟩
    obtain ⟨rfl, rfl, -⟩ : ticket = _ ∧ result = .error .stopTimeout ∧ isHeard = _ := by
      simpa using answered
    refine ⟨rfl.trans (ticket_of_purpose purpose), rfl, rfl, ?_, ?_, ?_⟩
    · simp [session]
    · exact occupied.session.trans session.symm
    · exact coherent.published.trans machine
  | leave phase quiet late tried purpose =>
    simp only [WorksFor, phase, purpose] at working
    exact absurd working.1.symm (purpose_ne_shutdown request)
  | @tearDown x next phase =>
    simp only [WorksFor, phase] at working
    simp only [PhaseFits, phase, TeardownFits] at fits
    obtain ⟨-, ⟨⟨y, leaving⟩, children⟩, -⟩ := fits
    subst working
    have vacant : Vacant none s.shared := ⟨rfl, leaving.event, leaving.relay, children⟩
    have finished : Handles start request _ _ := handles_finishStop
      (u := { s with machine := .idle, published := .idle, session := none }) vacant rfl
    refine ⟨finished.phase, fun ticket result isHeard answered => ?_⟩
    simp only [List.mem_cons, reduceCtorEq, false_or] at answered
    exact finished.answer ticket result isHeard answered

lemma not_minor_took : ¬Minor (.took request) := by
  intro minor
  cases minor with
  | incidental incidental => cases incidental
  | aside aside => cases aside

/-- Only the loop itself takes requests up. -/
lemma turn_of_took {i : Input} (coherent : s.Coherent) (step : s.step? i = some (t, more))
    (taken : .took request ∈ more) : s.Turn t more := by
  rcases step?_cases coherent step with turn | beside | ⟨-, running, destroyed⟩
  · exact turn
  · exact absurd (beside.minor _ taken) not_minor_took
  · have refusals : s.destroy.2 = more := congrArg Prod.snd destroyed
    rw [← refusals] at taken
    exact absurd (minor_destroy _ taken) not_minor_took

lemma Occasion.of_took {purpose : Purpose} {before : List Effect}
    (occasion : Occasion s u purpose before) (taken : .took request ∈ before) :
    purpose = request.purpose := by
  cases occasion with
  | request queue =>
    cases List.mem_singleton.mp taken
    rfl
  | shutdown => contradiction

/-- What the step that takes up a request does for it. -/
lemma Turn.takes (turn : s.Turn t more) (coherent : s.Coherent) (waiting : s.phase = .waiting)
    (taken : .took request ∈ more) : Handles s request t more := by
  have fits := coherent.phase
  have silent := turn.silent
  simp only [PhaseFits, waiting] at fits
  cases turn with
  | @beginVacant u purpose before phase exits session occasion =>
    have taken : .took request ∈ before := (List.mem_append.mp taken).resolve_right
      fun taken => not_minor_took (minor_finishStop _ _ taken)
    obtain rfl := occasion.of_took taken
    rcases fits with ⟨machine, vacant⟩ | ⟨-, x, e, n, occupied, -⟩
    · have quiet := occasion.silent
      obtain ⟨requests, rfl⟩ := occasion.fst
      have finished : Handles s request _ _ :=
        handles_finishStop (u := { s with requests }) vacant (coherent.published.trans machine)
      refine ⟨finished.phase, fun ticket result isHeard answered => ?_⟩
      rcases List.mem_append.mp answered with answered | answered
      · exact absurd rfl (quiet _ answered ticket result isHeard)
      · exact finished.answer ticket result isHeard answered
    · rw [occupied.session] at session
      contradiction
  | @beginStop u purpose before x now phase quiet session occasion =>
    have taken : .took request ∈ before := by
      rcases List.mem_append.mp taken with taken | taken
      · exact taken
      · split at taken <;> simp at taken
    obtain rfl := occasion.of_took taken
    exact .silent ⟨rfl, session⟩ (silent (by simp))
  | exit | staleExit =>
    rcases List.mem_append.mp taken with taken | taken
    · cases incidental_exitWarning _ _ taken
    · simp at taken
  | _ => simp_all only [reduceCtorEq]

lemma WorksFor.isOver (working : s.WorksFor start request) : s.phase.isOver = false := by
  cases phase : s.phase with
  | finished | destroyed => simp only [WorksFor, phase] at working
  | waiting | launching | stopping | tearingDown => rfl

/-- A loop that is not over leaves all answers to its own turns. -/
lemma Beside.silent (beside : s.Beside t more) (running : s.phase.isOver = false) :
    ∀ effect ∈ more, IsSilent effect := by
  rintro _ shown ticket result isHeard rfl
  cases beside.aside _ shown with
  | refused =>
    have ended := beside.refused ticket shown
    rw [running] at ended
    contradiction

lemma Handling.handles (coherent : start.Coherent) (handling : Handling start request s shown) :
    s.Coherent ∧ Handles start request s shown := by
  induction handling with
  | @take s more i waiting step taken =>
    have turn := turn_of_took coherent step taken
    exact ⟨turn.coherent coherent, turn.takes coherent waiting taken⟩
  | @next s t shown more i handling busy alive step ih =>
    obtain ⟨coherent, handles⟩ := ih
    have quiet : ∀ effect ∈ shown, IsSilent effect := by
      rintro _ shown ticket result isHeard rfl
      exact busy (handles.answer ticket result isHeard shown).2.1
    rcases step?_cases coherent step with turn | beside | ⟨destroyed, -, -⟩
    · have onward := turn.handles coherent busy handles.phase
      refine ⟨turn.coherent coherent, onward.phase, fun ticket result isHeard answered => ?_⟩
      rcases List.mem_append.mp answered with before | now
      · exact absurd rfl (quiet _ before ticket result isHeard)
      · exact onward.answer ticket result isHeard now
    · refine ⟨beside.coherent coherent, .silent ?_ (List.forall_mem_append.mpr
        ⟨quiet, beside.silent handles.phase.isOver⟩)⟩
      simpa only [WorksFor, beside.phase] using handles.phase
    · contradiction

/-- Whoever is answered learns what is true at that moment. -/
theorem Handling.truthful {settings : Settings} {collaborators : Collaborators}
    {seen : List Effect} {ticket : Nat} {result : Except SupervisorError Unit} {isHeard : Bool}
    (run : Run (fresh settings collaborators) start seen)
    (handling : Handling start request s shown)
    (answered : .answered ticket result isHeard ∈ shown) :
    ticket = request.ticket ∧ s.phase = .waiting ∧ Truthful start request s result :=
  (handling.handles run.coherent).2.answer ticket result isHeard answered

/-- A server that outlives its kill: the stop runs out of time and the session is still there. -/
theorem truthful_timeout :
    ∃ start s seen shown, Run (fresh .standard ⟨false, false⟩) start seen ∧
      Handling start ⟨2, .stop⟩ s shown ∧ .answered 2 (.error .stopTimeout) true ∈ shown ∧
      s.phase = .waiting ∧ Truthful start ⟨2, .stop⟩ s (.error .stopTimeout) := by
  have steps : ∃ out, (fresh .standard ⟨false, false⟩).steps?
      (launchInputs ⟨1, .start ⟨"race"⟩ (.direct ":9000" 9001)⟩ ++ [.submit ⟨2, .stop⟩]) =
        some out ∧ out.1.phase = .waiting ∧
      ∃ taken, out.1.step? (.poll 0 (.ok ())) =
        some (taken, [.took ⟨2, .stop⟩, .cancelled 1, .published .active .stopping]) ∧
        taken.phase = .stopping ⟨.stop 2, ⟨1, 7⟩, 0, false⟩ ∧
      ∃ killed, taken.step? (.poll 10000 (.ok ())) = some (killed, [.serverKilled 7]) ∧
        killed.phase = .stopping ⟨.stop 2, ⟨1, 7⟩, 0, true⟩ ∧
      ∃ s, killed.step? (.poll 20000 (.ok ())) =
        some (s, [.logged (.stopFailed .stopTimeout), .answered 2 (.error .stopTimeout) true]) :=
    ⟨_, rfl, rfl, _, rfl, rfl, _, rfl, rfl, _, rfl⟩
  obtain ⟨⟨start, seen⟩, steps, waiting, taken, take, stopping, killed, kill, failing, s, giveUp⟩ :=
    steps
  have run := Run.none.steps steps
  have handling : Handling start ⟨2, .stop⟩ s _ :=
    ((Handling.take waiting take (by simp)).next (by simp [stopping]) (by simp) kill).next
      (by simp [failing]) (by simp) giveUp
  have truthful := handling.truthful run
    (List.mem_append_right _ (List.mem_cons_of_mem _ (List.mem_cons_self ..)))
  exact ⟨start, s, seen, _, run, handling, by simp, truthful.2⟩

/-- Where the loop is at work without having been asked: an exit has come while it waited, or all
handles are gone. -/
def Unasked (s : System) : Prop :=
  match s.phase with
  | .waiting | .launching _ => False
  | .stopping stop => stop.purpose = .shutdown
  | .tearingDown _ next => next = .wait ∨ next = .finishStop .shutdown
  | .finished | .destroyed => True

lemma Unasked.busy (unasked : s.Unasked) : s.phase ≠ .waiting := by
  intro waiting
  simp only [Unasked, waiting] at unasked

lemma Turn.unasked (turn : s.Turn t more) (unasked : s.Unasked) :
    (t.phase = .waiting ∨ t.Unasked) ∧ ∀ effect ∈ more, IsSilent effect := by
  have silent := turn.silent
  cases turn with
  | kill phase | forget phase | closeRelay phase | stopWrapper phase | killChildren env phase
  | prune phase | signal phase | signalled phase =>
    simp only [Unasked, phase] at unasked
    exact ⟨.inr unasked, silent (by simp)⟩
  | tearDown phase =>
    simp only [Unasked, phase] at unasked
    rcases unasked with rfl | rfl
    · exact ⟨.inl rfl, by simp [resume, IsSilent]⟩
    · exact ⟨.inr trivial, silent (by simp [resume, finishStop, enter])⟩
  | exit attends =>
    refine ⟨.inr ?_, silent (by simp)⟩
    cases attends with
    | waiting phase => exact .inl rfl
    | stopping phase =>
      simp only [Unasked, phase] at unasked
      exact .inr (congrArg _ unasked)
  | staleExit => exact ⟨.inr unasked, silent unasked.busy⟩
  | giveUp phase quiet late tried purpose =>
    simp only [Unasked, phase] at unasked
    simp [unasked] at purpose
  | leave => exact ⟨.inr trivial, silent (by simp)⟩
  | announce phase | findDirectory phase | loadOptions phase | openRelay phase | startServer phase
  | fail phase | adopt phase | requestWrapper phase | auxiliary phase | activate phase
  | beginVacant phase | beginStop now phase =>
    simp only [Unasked, phase] at unasked

/-- A turn of a loop that waits goes on waiting, begins to handle a request or does what it has not
been asked for. -/
lemma Turn.waiting (turn : s.Turn t more) (waiting : s.phase = .waiting) :
    (∃ request, .took request ∈ more) ∨
      (t.phase = .waiting ∨ t.Unasked) ∧ ∀ effect ∈ more, IsSilent effect := by
  have silent := turn.silent
  cases turn with
  | beginVacant phase quiet session occasion =>
    cases occasion with
    | request queue => exact .inl ⟨_, List.mem_append_left _ (List.mem_singleton_self _)⟩
    | shutdown => exact .inr ⟨.inr trivial, silent (by simp [finishStop, enter])⟩
  | beginStop now phase quiet session occasion =>
    cases occasion with
    | request queue => exact .inl ⟨_, List.mem_append_left _ (List.mem_singleton_self _)⟩
    | shutdown => exact .inr ⟨.inr rfl, silent (by simp)⟩
  | exit attends =>
    refine .inr ⟨.inr ?_, silent (by simp)⟩
    cases attends with
    | waiting phase => exact .inl rfl
    | stopping phase =>
      rw [waiting] at phase
      contradiction
  | staleExit =>
    exact .inr ⟨.inl waiting, List.forall_mem_append.mpr ⟨fun effect shown =>
      isSilent_of_incidental (incidental_exitWarning _ effect shown), by simp [IsSilent]⟩⟩
  | _ => simp_all only [reduceCtorEq]

variable {settings : Settings} {collaborators : Collaborators}

/-- A loop at work handles a request, or has not been asked. -/
def Accounted (settings : Settings) (collaborators : Collaborators) (s : System) : Prop :=
  s.phase = .waiting ∨ s.Unasked ∨ ∃ start seen request shown,
    Run (fresh settings collaborators) start seen ∧ Handling start request s shown

/-- A turn goes on with the handling of a request, or gives no answer. -/
lemma Turn.accounted {seen : List Effect} {i : Input} (turn : s.Turn t more)
    (run : Run (fresh settings collaborators) s seen)
    (accounted : s.Accounted settings collaborators) (alive : i ≠ .destroy)
    (step : s.step? i = some (t, more)) :
    (∃ start before request shown, Run (fresh settings collaborators) start before ∧
      Handling start request t (shown ++ more)) ∨
      (t.phase = .waiting ∨ t.Unasked) ∧ ∀ effect ∈ more, IsSilent effect := by
  by_cases waiting : s.phase = .waiting
  · rcases turn.waiting waiting with ⟨request, taken⟩ | quiet
    · exact .inl ⟨s, seen, request, [], run, .take waiting step taken⟩
    · exact .inr quiet
  · rcases accounted with rest | unasked | ⟨start, before, request, shown, first, handling⟩
    · exact absurd rest waiting
    · exact .inr (turn.unasked unasked)
    · exact .inl ⟨start, before, request, shown, first, handling.next waiting alive step⟩

lemma Beside.accounted {i : Input} (beside : s.Beside t more)
    (accounted : s.Accounted settings collaborators) (alive : i ≠ .destroy)
    (step : s.step? i = some (t, more)) : t.Accounted settings collaborators := by
  by_cases waiting : s.phase = .waiting
  · exact .inl (beside.phase.trans waiting)
  · rcases accounted with rest | unasked | ⟨start, before, request, shown, first, handling⟩
    · exact absurd rest waiting
    · refine .inr (.inl ?_)
      simpa only [Unasked, beside.phase] using unasked
    · exact .inr (.inr ⟨start, before, request, _, first, handling.next waiting alive step⟩)

lemma Run.accounted {seen : List Effect} (run : Run (fresh settings collaborators) s seen) :
    s.Accounted settings collaborators := by
  induction run with
  | none => exact .inl rfl
  | @step s t seen more i run step ih =>
    by_cases destroyed : i = .destroy
    · subst destroyed
      simp only [step?] at step
      split at step
      · contradiction
      · cases step
        exact .inr (.inl trivial)
    · rcases step?_cases run.coherent step with turn | beside | ⟨same, -, -⟩
      · rcases turn.accounted run ih destroyed step with
          ⟨start, before, request, shown, first, handling⟩ | ⟨rest | unasked, -⟩
        · exact .inr (.inr ⟨start, before, request, _, first, handling⟩)
        · exact .inl rest
        · exact .inr (.inl unasked)
      · exact beside.accounted ih destroyed step
      · exact absurd same destroyed

/-- Every answer that the loop gives ends the handling of a request that it has taken up. -/
theorem Run.handling_of_answered {seen : List Effect} {i : Input} {ticket : Nat}
    {result : Except SupervisorError Unit} {isHeard : Bool}
    (run : Run (fresh settings collaborators) s seen) (running : s.phase.isOver = false)
    (alive : i ≠ .destroy) (step : s.step? i = some (t, more))
    (answered : .answered ticket result isHeard ∈ more) :
    ∃ start before request shown, Run (fresh settings collaborators) start before ∧
      Handling start request t shown ∧ .answered ticket result isHeard ∈ shown := by
  rcases step?_cases run.coherent step with turn | beside | ⟨same, -, -⟩
  · rcases turn.accounted run run.accounted alive step with
      ⟨start, before, request, shown, first, handling⟩ | ⟨-, silent⟩
    · exact ⟨start, before, request, _, first, handling, List.mem_append_right _ answered⟩
    · exact absurd rfl (silent _ answered ticket result isHeard)
  · exact absurd rfl (beside.silent running _ answered ticket result isHeard)
  · exact absurd same alive

end RaceControl.System
