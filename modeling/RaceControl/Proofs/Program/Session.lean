import RaceControl.Program.Run
import RaceControl.Proofs.Supervisor.Recollection
import RaceControl.Proofs.Supervisor.Shutdown

/-!
The supervisor of a program, whose user asks for one session, and for one stop at most. The loop
answers what it is asked, launches nothing after that, and the end of the session is signalled on
the one channel that has been registered.
-/
namespace RaceControl

lemma Purpose.eq_of_request? {purpose : Purpose} {request : Request}
    (asked : purpose.request? = some request) : purpose = request.purpose := by
  cases purpose with
  | stop | relaunch =>
    cases asked
    rfl
  | shutdown => contradiction

namespace Program
variable {more : List Effect}

/-- Only what is dealt with requests tells a program its answer. -/
lemma answerIn_dealings (more : List Effect) : answerIn more = answerIn (dealings more) := by
  simp only [answerIn, ← List.head?_filterMap, dealings]
  rw [filterMap_filter_told]
  intro effect quiet
  cases effect with
  | answered => contradiction
  | _ => rfl

lemma answerIn_eq_none (none : dealings more = []) : answerIn more = Option.none := by
  rw [answerIn_dealings, none]
  rfl

end Program

namespace System
open Program
variable {s t u : System} {seen more part : List Effect} {i : Input} {request : Request}
  {asked : Option Request} {wrapped : Bool}

/-- A step that neither the loop takes nor the user of the supervisor. -/
structure Aloof (s t : System) (more : List Effect) : Prop extends Beside s t more where
  requests : t.requests = s.requests
  listening : t.listening = s.listening
  held : t.handles = s.handles
  channels : t.channels = s.channels
  waiters : t.shared.waiters = s.shared.waiters

/-- Without its user a supervisor is left to its loop and to what goes on beside it. -/
lemma step?_uncalled (coherent : s.Coherent) (uncalled : isUserCall i = false)
    (step : s.step? i = some (t, more)) : s.Turn t more ∨ s.Aloof t more := by
  have move := step?_move coherent step
  have beside := move.beside (i := i)
  cases move with
  | turn own turn => exact .inl turn
  | enter | refuse | hangUp | destroy => contradiction
  | notice member racing beside => exact .inr ⟨beside, rfl, rfl, rfl, rfl, rfl⟩
  | report => exact .inr ⟨beside rfl nofun, rfl, rfl, rfl, rfl, rfl⟩
  | apart detached apart =>
    cases step?_detached detached step with
    | cloneHandle | dropHandle | openChannel | receiveSignal | drainChannel | closeChannel
    | unconnected | beginSend => contradiction
    | runWrapper | wrote | capture | holdSocket | findClosed | transmit | endTask =>
      exact .inr ⟨beside rfl nofun, rfl, rfl, rfl, rfl, rfl⟩

/-- The loop neither takes nor drops a handle. -/
lemma Turn.held (turn : s.Turn t more) : t.handles = s.handles := by
  cases turn with
  | fail phase failure => cases failure <;> rfl
  | beginVacant phase quiet session occasion =>
    obtain ⟨_, _, _, finished⟩ := occasion.finishStop_fst
    rw [finished]
  | beginStop now phase quiet session occasion =>
    obtain ⟨_, rfl⟩ := occasion.fst
    rfl
  | @tearDown x next phase session =>
    obtain ⟨_, _, resumed⟩ := s.tearDown_fst next
    rw [resumed]
  | _ => rfl

/-! ## What the loop is asked -/

/-- The one request that has not been answered yet, if there is one, and the caller who waits for
its answer. -/
structure Asks (s : System) (asked : Option Request) : Prop where
  pending : s.pending = asked.toList
  listening : s.listening = asked.toList.map (·.ticket)

/-- What a step makes of the one request. -/
inductive Replies (t : System) (more : List Effect) : Option Request → Prop
  | none {asked : Option Request} : t.Asks asked → answerIn more = .none → Replies t more asked
  | some {start : System} {request : Request} {result : Except SupervisorError Unit} :
    t.Asks .none → answerIn more = .some result → t.phase = .waiting →
      Truthful start request t result → Replies t more (.some request)

/-- The loop works on the request that it has taken up. -/
lemma worksFor_of_request? (coherent : s.Coherent) (current : s.phase.request? = some request) :
    s.WorksFor s request := by
  have fits := coherent.phase
  cases phase : s.phase with
  | launching l =>
    rw [phase] at current
    simp only [WorksFor, phase]
    exact (Option.some.inj current).symm
  | stopping stop =>
    rw [phase] at current
    simp only [PhaseFits, phase] at fits
    obtain ⟨-, e, n, occupied, -⟩ := fits
    simp only [WorksFor, phase]
    exact ⟨Purpose.eq_of_request? current, occupied.session⟩
  | tearingDown stage next =>
    rw [phase] at current
    simp only [PhaseFits, phase] at fits
    simp only [WorksFor, phase]
    cases next with
    | wait => contradiction
    | finishStop purpose => exact congrArg _ (Purpose.eq_of_request? current)
    | keepStopping => exact fits.2.2.elim
  | waiting | finished | destroyed =>
    rw [phase] at current
    contradiction

/-- The one request is answered to the caller who waits for it, and nothing else is asked. -/
lemma Handles.replies {start : System} {result : Except SupervisorError Unit}
    (handles : Handles start request t more) (told : List Effect) (waiting : t.phase = .waiting)
    (left : t.requests = [])
    (listening : t.listening = [request.ticket].filter (· != request.ticket))
    (dealt : dealings more =
      told ++ [.answered request.ticket result ([request.ticket].contains request.ticket)])
    (silent : answerIn told = none) : Replies t more (some request) := by
  have shown : .answered request.ticket result _ ∈ dealings more :=
    dealt ▸ List.mem_append_right told (List.mem_singleton_self _)
  have answer := handles.answer _ _ _ (List.mem_filter.mp shown).1
  refine .some ⟨?_, ?_⟩ ?_ waiting answer.2.2
  · rw [System.pending, waiting, left]
    rfl
  · rw [listening]
    simp
  · rw [answerIn_dealings, dealt, answerIn, List.findSome?_append]
    simp only [answerIn] at silent
    simp [silent]

lemma Asks.turn (asks : s.Asks asked) (turn : s.Turn t more) (coherent : s.Coherent) :
    Replies t more asked := by
  obtain ⟨waits, listens⟩ := asks
  cases turn.deals with
  | goesOn none current requests listening =>
    refine .none ⟨?_, listening.trans listens⟩ (answerIn_eq_none none)
    rw [← waits, System.pending, System.pending, current, requests]
  | @takes request waiting quiet queue current took listening =>
    refine .none ⟨?_, listening.trans listens⟩ ?_
    · rw [← waits, System.pending, System.pending, current, waiting, queue]
      rfl
    · rw [answerIn_dealings, took]
      rfl
  | @answers request result current waiting requests reply answered listening =>
    rw [System.pending, current] at waits
    cases asked with
    | none => contradiction
    | some first =>
      obtain ⟨rfl, rest⟩ := List.cons.inj waits
      have busy : s.phase ≠ .waiting := by
        intro waiting
        rw [waiting] at current
        contradiction
      have handles := turn.handles coherent busy (worksFor_of_request? coherent current)
      rw [listens] at answered listening
      exact handles.replies [] waiting (requests.trans rest) listening answered rfl
  | @serves request result idle quiet queue waiting reply dealt listening =>
    rw [System.pending, idle, queue] at waits
    cases asked with
    | none => contradiction
    | some first =>
      obtain ⟨rfl, rest⟩ := List.cons.inj waits
      have taken : .took request ∈ more :=
        (List.mem_filter.mp (dealt ▸ List.mem_cons_self ..)).1
      have handles := turn.takes coherent idle taken
      rw [listens] at dealt listening
      exact handles.replies [.took request] waiting rest listening dealt rfl

lemma Aloof.replies (aloof : s.Aloof t more) (running : s.phase.isOver = false)
    (asks : s.Asks asked) : Replies t more asked := by
  refine .none ⟨?_, aloof.listening.trans asks.listening⟩ ?_
  · rw [← asks.pending, pending, pending, aloof.phase, aloof.requests]
  · refine List.findSome?_eq_none_iff.mpr fun effect shown => ?_
    have silent := aloof.silent running effect shown
    cases effect with
    | answered ticket result isHeard => exact absurd rfl (silent ticket result isHeard)
    | _ => rfl

/-! ## The launch -/

/-- The generation of the session, if there is one. -/
def present (s : System) : List Nat := (s.session.map (·.generation)).toList

/-- A launch that has been asked for and has not been answered yet. -/
structure Embarking (s : System) (seen : List Effect) : Prop where
  phase : s.phase = .waiting ∧ s.session = none ∨ ∃ l, s.phase = .launching l
  launches : launches seen = s.present

lemma launches_eq_nil {more : List Effect} (quiet : ∀ generation, .launched generation ∉ more) :
    launches more = [] := by
  refine List.filterMap_eq_nil_iff.mpr fun effect shown => ?_
  cases effect with
  | launched generation => exact absurd shown (quiet generation)
  | _ => rfl

/-- A turn of a launch launches nothing but the session that it leaves behind. -/
lemma Turn.launches_present {l : Launch} (turn : s.Turn t more) (coherent : s.Coherent)
    (launching : s.phase = .launching l) : t.present = s.present ++ launches more := by
  cases turn with
  | announce | findDirectory | loadOptions | openRelay | startServer | requestWrapper | activate =>
    exact (List.append_nil _).symm
  | fail phase failure => cases failure <;> exact (List.append_nil _).symm
  | adopt phase stage =>
    have fits := coherent.phase
    simp only [PhaseFits, phase, LaunchFits, stage] at fits
    rw [present, present, fits.2.1.session]
    rfl
  | auxiliary phase start =>
    have none : launches more = [] :=
      launches_eq_nil fun generation shown => by cases start.outfitting _ shown
    rw [none, List.append_nil]
    rfl
  | exit attends | staleExit attends =>
    cases attends with
    | waiting phase | stopping phase => simp [phase] at launching
  | _ => simp_all

/-- What the loop does while it waits without a session: it begins to launch one. -/
lemma Turn.embarks (turn : s.Turn t more) (asks : s.Asks (some request))
    (start : request.demand ≠ .stop) (waiting : s.phase = .waiting) (vacant : s.session = none) :
    t.session = none ∧ launches more = [] ∧ (t.phase = .waiting ∨ ∃ l, t.phase = .launching l) := by
  have queue : s.requests = [request] := by
    have waits := asks.pending
    rwa [pending, waiting] at waits
  cases turn with
  | beginVacant phase quiet session occasion =>
    cases occasion with
    | @request first rest more =>
      obtain ⟨rfl, rfl⟩ := List.cons.inj (queue.symm.trans more)
      obtain ⟨ticket, demand⟩ := request
      cases demand with
      | stop => exact absurd rfl start
      | start e addressing => exact ⟨vacant, rfl, .inr ⟨_, rfl⟩⟩
    | shutdown none => simp [queue] at none
  | beginStop now phase quiet session => simp [vacant] at session
  | exit attends queue session => simp [vacant] at session
  | staleExit attends =>
    refine ⟨vacant, ?_, .inl waiting⟩
    exact launches_eq_nil fun generation shown => by
      rcases List.mem_append.mp shown with warned | rest
      · cases eq_of_mem_exitWarning warned
      · simp at rest
  | _ => simp_all

lemma Turn.embarking (turn : s.Turn t more) (coherent : s.Coherent)
    (asks : s.Asks (some request)) (start : request.demand ≠ .stop)
    (embarking : s.Embarking seen) :
    launches (seen ++ more) = t.present ∧
      (t.Asks (some request) → t.Embarking (seen ++ more)) := by
  rw [launches_append, embarking.launches]
  rcases embarking.phase with ⟨waiting, vacant⟩ | ⟨l, launching⟩
  · obtain ⟨session, none, phase⟩ := turn.embarks asks start waiting vacant
    have same : s.present ++ launches more = t.present := by
      rw [none, present, present, vacant, session]
      rfl
    refine ⟨same, fun _ => ⟨phase.imp_left fun waiting => ⟨waiting, session⟩, ?_⟩⟩
    rw [launches_append, embarking.launches, same]
  · have same := (turn.launches_present coherent launching).symm
    refine ⟨same, fun later => ⟨?_, ?_⟩⟩
    · rcases turn.launching launching with onward | ⟨waiting, requests⟩
      · exact .inr onward
      · have before := asks.pending
        have after := later.pending
        rw [pending, launching] at before
        have none : s.requests = [] := (List.cons.inj before).2
        rw [pending, waiting, requests, none] at after
        contradiction
    · rw [launches_append, embarking.launches, same]

lemma Aloof.embarking (aloof : s.Aloof t more) (embarking : s.Embarking seen) :
    t.Embarking (seen ++ more) := by
  refine ⟨by simpa only [aloof.phase, aloof.session] using embarking.phase, ?_⟩
  rw [launches_append, embarking.launches, launches_of_quiet aloof.toBeside.quiet, List.append_nil,
    present, present, aloof.session]

/-! ## The end of the session -/

/-- The session is over, and what is left to be done is to make that known. -/
inductive Over (s : System) : Prop
  | waiting : s.phase = .waiting → s.session = none → Over s
  | signalling {remaining : List Nat} {next : Resumption} :
    s.phase = .tearingDown (.signal remaining) next → Over s
  | finishing {next : Resumption} : s.phase = .tearingDown .finish next → Over s

/-- As long as the loop is not asked for anything, a session that is over stays so. -/
lemma Over.turn (past : s.Over) (turn : s.Turn t more) (coherent : s.Coherent)
    (asks : s.Asks none) (held : s.handles ≠ 0) (stays : ¬s.IsClosing) : t.Over := by
  have idle := asks.pending
  have fits := coherent.phase
  cases past with
  | waiting waiting vacant =>
    rw [pending, waiting] at idle
    cases turn with
    | beginVacant phase quiet session occasion =>
      cases occasion with
      | request queue => simp [queue] at idle
      | shutdown none handles => exact absurd handles held
    | beginStop now phase quiet session => simp [vacant] at session
    | exit attends queue session => simp [vacant] at session
    | staleExit => exact .waiting waiting vacant
    | _ => simp_all
  | signalling signalling =>
    cases turn with
    | signal => exact .signalling rfl
    | signalled => exact .finishing rfl
    | exit attends | staleExit attends =>
      cases attends with
      | waiting phase | stopping phase => simp [signalling] at phase
    | _ => simp_all
  | @finishing last finishing =>
    rw [pending, finishing] at idle
    simp only [PhaseFits, finishing] at fits
    simp only [IsClosing, finishing] at stays
    cases turn with
    | @tearDown x next phase session =>
      obtain rfl : next = last := by simpa [finishing] using phase.symm
      cases next with
      | wait => exact .waiting rfl rfl
      | finishStop purpose =>
        cases purpose with
        | stop | relaunch => contradiction
        | shutdown => exact absurd rfl stays
      | keepStopping => exact fits.2.2.elim
    | exit attends | staleExit attends =>
      cases attends with
      | waiting phase | stopping phase => simp [finishing] at phase
    | _ => simp_all

lemma Aloof.past (aloof : s.Aloof t more) (past : s.Over) : t.Over := by
  cases past with
  | waiting waiting vacant =>
    exact .waiting (aloof.phase.trans waiting) (aloof.session.trans vacant)
  | signalling signalling => exact .signalling (aloof.phase.trans signalling)
  | finishing finishing => exact .finishing (aloof.phase.trans finishing)

/-- Nothing of the session is left but what is told of it. -/
structure Dissolved (s : System) (seen : List Effect) : Prop where
  event : s.shared.event = none
  relay : s.shared.relay = none
  /-- Every relay that was opened is closed. -/
  closed : s.Shut
  /-- Every process that was started beside the server has been sent its kill. -/
  killed : s.shared.children.tracked = [] ∧ kills seen = starts seen
  /-- The server has ended, and its exit has been dealt with. -/
  server : s.exits = [] ∧ ∀ server ∈ s.servers, server.waiter = .reported

variable {settings : Settings} {collaborators : Collaborators}

/-- Of a session that is over nothing is left. -/
lemma Over.dissolved (past : s.Over) (run : Run (fresh settings collaborators) s seen) :
    s.Dissolved seen := by
  have fits := run.coherent.phase
  have alive : s.phase ≠ .destroyed := by
    cases past with
    | waiting phase | signalling phase | finishing phase => simp [phase]
  have custody := run.custody alive
  have awaited := run.awaited alive
  have gone : s.shared.event = none ∧ s.shared.relay = none ∧ s.shared.children.tracked = [] ∧
      s.inUse? = s.shared.relay ∧ s.expected = none := by
    cases past with
    | waiting waiting vacant =>
      simp only [PhaseFits, waiting] at fits
      rcases fits with ⟨-, nothing⟩ | ⟨-, x, e, n, occupied, -⟩
      · exact ⟨nothing.event, nothing.relay, nothing.children, by simp [inUse?, waiting],
          by simp [expected, waiting, vacant]⟩
      · rw [occupied.session] at vacant
        contradiction
    | signalling phase | finishing phase =>
      simp only [PhaseFits, phase, TeardownFits] at fits
      obtain ⟨-, ⟨⟨x, leaving⟩, children⟩, -⟩ := fits
      exact ⟨leaving.event, leaving.relay, children, by simp [inUse?, phase],
        by simp [expected, phase]⟩
  obtain ⟨event, relay, children, inUse, expected⟩ := gone
  rw [inUse, relay] at custody
  rw [expected] at awaited
  refine ⟨event, relay, ?_, ⟨children, ?_⟩, ?_⟩
  · exact run.shut custody.closed
  · rw [run.book, children, List.append_nil]
  · generalize s.exits = exits at awaited ⊢
    cases awaited with
    | nobody all => exact ⟨rfl, all⟩

/-! ## The session from its launch to its end -/

/-- What has been told of the session that is under way. -/
inductive Told (s : System) (part : List Effect) : Prop
  | nothing : s.phase = .waiting → s.session = none → part = [] → Told s part
  | launching {l : Launch} : s.phase = .launching l → Told s part
  | launched {x : Session} : s.session = some x → launches part = [x.generation] →
    rounds part = [] → (∀ generation, .tornDown generation ∉ part) → Told s part
  | signalled {x : Session} {channels : List Nat} : s.session = some x → s.Over →
    launches part = [x.generation] → rounds part = [channels] →
    (∀ generation, .tornDown generation ∉ part) → Told s part

/-- What a teardown tells of the end of its session, up to the last of its stages. -/
lemma TeardownPart.told {shown : Option Nat} {n : Nat} {stage : TeardownStage} {tail : List Effect}
    (teardown : TeardownPart wrapped shown n stage tail) :
    launches tail = [] ∧ (∀ generation, .tornDown generation ∉ tail) ∧
      (rounds tail = [] ∨ (∃ channels, rounds tail = [channels]) ∧
        (stage = .finish ∨ ∃ remaining, stage = .signal remaining)) := by
  have quiet : (∀ generation, .launched generation ∉ tail) ∧
      ∀ generation, .tornDown generation ∉ tail := by
    cases teardown <;> cases wrapped <;>
      simp [Chapter.farewell, Chapter.kills, Chapter.signals]
  refine ⟨launches_eq_nil quiet.1, quiet.2, ?_⟩
  cases teardown with
  | forget | closeRelay | stopWrapper => exact .inl rfl
  | killChildren => exact .inl (Chapter.rounds_farewell wrapped n)
  | prune children => exact .inl (by simp)
  | @signal children visited rest signalled =>
    exact .inr ⟨⟨visited ++ rest, by simp⟩, .inr ⟨rest, rfl⟩⟩
  | @finish children channels signalled => exact .inr ⟨⟨channels, by simp⟩, .inl rfl⟩

lemma Underway.told (underway : s.Underway wrapped part) (running : s.phase.isOver = false) :
    s.Told part := by
  have launched (launched : s.HasLaunched part) : s.Told part := by
    obtain ⟨n, x, spec, session, -, rfl⟩ := launched
    exact .launched session rfl rfl (by simp [Chapter.launch])
  cases phase : s.phase with
  | waiting =>
    simp only [Underway, phase] at underway
    rcases underway with ⟨vacant, none⟩ | running
    · exact .nothing phase vacant none
    · exact launched running
  | launching l => exact .launching phase
  | stopping stop =>
    simp only [Underway, phase] at underway
    exact launched underway
  | tearingDown stage next =>
    simp only [Underway, phase] at underway
    obtain ⟨n, x, spec, tail, session, teardown, rfl⟩ := underway
    obtain ⟨none, untorn, signals⟩ := teardown.told
    have one : launches (Chapter.launch n x spec ++ tail) = [x.generation] :=
      congrArg (x.generation :: ·) none
    have untorn : ∀ generation, .tornDown generation ∉ Chapter.launch n x spec ++ tail := by
      simpa [Chapter.launch] using untorn
    rcases signals with none | ⟨⟨channels, round⟩, rfl | ⟨remaining, rfl⟩⟩
    · exact .launched session one none untorn
    · exact .signalled session (.finishing phase) one round untorn
    · exact .signalled session (.signalling phase) one round untorn
  | finished | destroyed =>
    rw [phase] at running
    contradiction

/-- Only a session that has been launched is torn down. -/
lemma launches_ne_nil_of_tornDown {chapters : List Chapter} {generation : Nat}
    (torn : .tornDown generation ∈ chapters.flatMap (·.milestones wrapped)) :
    launches (chapters.flatMap (·.milestones wrapped)) ≠ [] := by
  obtain ⟨chapter, member, torn⟩ := List.mem_flatMap.mp torn
  cases chapter with
  | abortive relay => simp [Chapter.milestones] at torn
  | session relay x spec children channels signalled sent =>
    have launched : .launched x.generation ∈ chapters.flatMap (·.milestones wrapped) := by
      refine List.mem_flatMap.mpr ⟨_, member, ?_⟩
      simp [Chapter.milestones, Chapter.launch]
    exact List.ne_nil_of_mem (List.mem_filterMap.mpr ⟨_, launched, rfl⟩)

/-- How far it is with the one session that has been launched. -/
inductive Career (s : System) (seen : List Effect) : Prop
  | serving {x : Session} : s.session = some x → rounds seen = [] →
    (∀ generation, .tornDown generation ∉ seen) → Career s seen
  | leaving : s.session ≠ none → s.Over → (rounds seen).length = 1 →
    (∀ generation, .tornDown generation ∉ seen) → Career s seen
  | past : s.phase = .waiting → s.session = none → (rounds seen).length = 1 → Career s seen

lemma Run.career (run : Run (fresh settings collaborators) s seen)
    (running : s.phase.isOver = false) (launched : ∀ l, s.phase ≠ .launching l)
    (one : (launches seen).length = 1) : s.Career seen := by
  obtain ⟨-, part, ⟨whole, told⟩, underway⟩ := run.underway
  have same := length_rounds_chapters collaborators.hasWrapper whole
  have torn generation (shown : .tornDown generation ∈ seen) :
      .tornDown generation ∈ milestones seen := List.mem_filter.mpr ⟨shown, rfl⟩
  rw [← launches_milestones, told, launches_append, List.length_append] at one
  rw [told] at torn
  have rounds : RaceControl.rounds seen = RaceControl.rounds (milestones seen) :=
    (rounds_milestones seen).symm
  rw [told, rounds_append] at rounds
  have alone (mine : (launches part).length = 1) :
      RaceControl.rounds seen = RaceControl.rounds part ∧
        ((∀ generation, .tornDown generation ∉ part) →
          ∀ generation, .tornDown generation ∉ seen) := by
    -- the chapters before this one have launched nothing
    have none := List.eq_nil_of_length_eq_zero (Nat.add_eq_right.mp (one.trans mine.symm))
    rw [none] at same
    refine ⟨by rw [rounds, List.eq_nil_of_length_eq_zero same, List.nil_append], ?_⟩
    intro untorn generation shown
    rcases List.mem_append.mp (torn generation shown) with before | now
    · exact launches_ne_nil_of_tornDown before none
    · exact untorn generation now
  cases underway.told running with
  | nothing waiting vacant none =>
    subst none
    refine .past waiting vacant ?_
    rw [rounds, List.length_append, same]
    exact one
  | launching phase => exact absurd phase (launched _)
  | launched session mine none untorn =>
    obtain ⟨same, untorn'⟩ := alone (by rw [mine]; rfl)
    exact .serving session (same.trans none) (untorn' untorn)
  | signalled session past mine round untorn =>
    obtain ⟨same, untorn'⟩ := alone (by rw [mine]; rfl)
    exact .leaving (by simp [session]) past (by rw [same, round]; rfl) (untorn' untorn)

/-! ## The signal of its end -/

/-- The one channel that is registered has room for one signal, and holds those that were sent. -/
structure Subscribed (s : System) (seen : List Effect) : Prop where
  waiters : s.shared.waiters = [doneChannel]
  channels : s.channels = [⟨doneCapacity, (signals seen).length, false⟩]
  count : (signals seen).length + s.phase.calling.length = (rounds seen).length

lemma Subscribed.turn (subscribed : s.Subscribed seen) (turn : s.Turn t more)
    (enrolled : s.Enrolled) (few : s.phase.calling ≠ [] → (rounds seen).length = 1) :
    t.Subscribed (seen ++ more) := by
  obtain ⟨waiters, channels, count⟩ := subscribed
  have calling := enrolled.calling
  cases turn.signalling (i := .poll 0 (.ok ())) rfl with
  | apart same kept calls free quiet =>
    obtain ⟨none, nor⟩ := signals_eq_nil quiet
    refine ⟨kept.trans waiters, ?_, ?_⟩
    · rw [same, channels, signals_append, none, List.append_nil]
    · rw [signals_append, rounds_append, none, nor, calls, List.append_nil, List.append_nil, count]
  | prunes own phase =>
    have isOpen : s.shared.waiters.filter s.isOpenChannel = [doneChannel] := by
      rw [waiters]
      simp [isOpenChannel, channels, doneChannel]
    rw [phase] at count
    refine ⟨isOpen, ?_, ?_⟩
    · simpa using channels
    · rw [isOpen]
      simpa [Phase.calling] using count
  | @calls _ number rest next own phase =>
    -- the channel has its turn, and its queue is still empty
    rw [phase, waiters] at calling
    have turn : number = doneChannel ∧ rest = [] := by
      have shorter : (number :: rest).length ≤ 1 := calling.length_le
      have only : number ∈ [doneChannel] := calling.subset (List.mem_cons_self ..)
      refine ⟨List.mem_singleton.mp only, List.eq_nil_of_length_eq_zero ?_⟩
      simpa using shorter
    obtain ⟨rfl, rfl⟩ := turn
    have one := few (by simp [phase, Phase.calling])
    rw [phase, one] at count
    have none : signals seen = [] :=
      List.eq_nil_of_length_eq_zero (Nat.succ.inj count)
    rw [none] at channels
    have room : s.HasRoom doneChannel :=
      ⟨⟨doneCapacity, 0, false⟩, by rw [channels]; rfl, rfl, Nat.one_pos⟩
    rw [signal_of_hasRoom room]
    refine ⟨waiters, ?_, ?_⟩
    · rw [signals_append, none, channels]
      rfl
    · rw [signals_append, rounds_append, List.length_append, List.length_append, none, one]
      rfl
  | receives own => contradiction

lemma Subscribed.aloof (subscribed : s.Subscribed seen) (aloof : s.Aloof t more) :
    t.Subscribed (seen ++ more) := by
  have quiet : signals more = [] ∧ rounds more = [] :=
    signals_eq_nil fun effect shown => by cases aloof.aside effect shown <;> rfl
  refine ⟨aloof.waiters.trans subscribed.waiters, ?_, ?_⟩
  · rw [aloof.channels, subscribed.channels, signals_append, quiet.1, List.append_nil]
  · rw [signals_append, rounds_append, quiet.1, quiet.2, aloof.phase, List.append_nil,
      List.append_nil, subscribed.count]

end System
end RaceControl
