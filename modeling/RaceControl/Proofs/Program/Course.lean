import RaceControl.Proofs.Program.Session
import RaceControl.Proofs.Text.Utf8

/-!
A program and its one session: the program does not leave before the session is over, and the
signal of its end is there for a program that waits.
-/
namespace RaceControl
namespace System
open Program
variable {s t : System} {seen more : List Effect} {i : Input} {request : Request}
  {asked : Option Request} {settings : Settings} {collaborators : Collaborators}

/-- A supervisor whose one handle is kept. -/
structure Kept (settings : Settings) (collaborators : Collaborators) (s : System)
    (seen : List Effect) : Prop where
  run : Run (fresh settings collaborators) s seen
  alive : s.phase ≠ .destroyed
  handles : s.handles = 1

/-- A loop that is not asked for anything is past its launches. -/
lemma Asks.landed (asks : s.Asks none) (l : Launch) : s.phase ≠ .launching l := by
  intro phase
  have waits := asks.pending
  rw [System.pending, phase] at waits
  contradiction

namespace Kept

lemma running (kept : Kept settings collaborators s seen) : s.phase.isOver = false :=
  kept.run.isOver_eq_false kept.alive (by simp [kept.handles])

lemma not_isClosing (kept : Kept settings collaborators s seen) : ¬s.IsClosing := by
  intro closing
  have dropped := kept.run.handles_of_isClosing closing
  simp [kept.handles] at dropped

variable (kept : Kept settings collaborators s seen)
include kept

/-! ### Steps that the user of the supervisor does not take -/

section
variable (uncalled : isUserCall i = false) (step : s.step? i = some (t, more))
include uncalled step

lemma goesOn : Kept settings collaborators t (seen ++ more) := by
  have move := step?_move kept.run.coherent step
  refine ⟨kept.run.step step, move.alive kept.alive ?_, ?_⟩
  · rintro rfl
    contradiction
  · rcases step?_uncalled kept.run.coherent uncalled step with turn | aloof
    · exact turn.held.trans kept.handles
    · exact aloof.held.trans kept.handles

lemma replies (asks : s.Asks asked) : Replies t more asked := by
  rcases step?_uncalled kept.run.coherent uncalled step with turn | aloof
  · exact asks.turn turn kept.run.coherent
  · exact aloof.replies kept.running asks

lemma past (asks : s.Asks none) (past : s.Over) : t.Over := by
  rcases step?_uncalled kept.run.coherent uncalled step with turn | aloof
  · exact past.turn turn kept.run.coherent asks (by simp [kept.handles]) kept.not_isClosing
  · exact aloof.past past

lemma subscribed (subscribed : s.Subscribed seen)
    (few : s.phase.calling ≠ [] → (rounds seen).length = 1) : t.Subscribed (seen ++ more) := by
  rcases step?_uncalled kept.run.coherent uncalled step with turn | aloof
  · exact subscribed.turn turn kept.run.enrolled few
  · exact subscribed.aloof aloof

lemma embarking (asks : s.Asks (some request)) (start : request.demand ≠ .stop)
    (embarking : s.Embarking seen) :
    launches (seen ++ more) = t.present ∧
      (t.Asks (some request) → t.Embarking (seen ++ more)) := by
  rcases step?_uncalled kept.run.coherent uncalled step with turn | aloof
  · exact turn.embarking kept.run.coherent asks start embarking
  · have later := aloof.embarking embarking
    exact ⟨later.launches, fun _ => later⟩

omit uncalled in
/-- As long as a stop is all that the loop may be asked for, it launches nothing. -/
lemma launches_append_of_stop (asks : s.Asks asked)
    (stop : ∀ request ∈ asked, request.demand = .stop) :
    launches (seen ++ more) = launches seen := by
  have quiet : ∀ effect ∈ more, effect.isTrial = false := by
    refine (step?_move kept.run.coherent step).quiet fun request waits => stop request ?_
    rw [asks.pending] at waits
    exact Option.mem_toList.mp waits
  rw [launches_append, launches_of_quiet quiet, List.append_nil]

end

/-! ### What can be seen of the session -/

/-- A supervisor that is idle and is not asked for anything has no session. -/
lemma past_of_idle (asks : s.Asks none) (idle : s.published = .idle) : s.Over := by
  have fits := kept.run.coherent.phase
  have machine : s.machine = .idle := kept.run.coherent.published.symm.trans idle
  have running := kept.running
  cases phase : s.phase with
  | waiting =>
    simp only [PhaseFits, phase] at fits
    rcases fits with ⟨-, vacant⟩ | ⟨serving, -⟩
    · exact .waiting phase vacant.session
    · simp [machine] at serving
  | launching l => exact absurd phase (asks.landed l)
  | stopping stop => simp [PhaseFits, phase, machine] at fits
  | tearingDown stage next => simp [PhaseFits, phase, machine] at fits
  | finished | destroyed => simp [phase, Phase.isOver] at running

lemma career (one : (launches seen).length = 1) (asks : s.Asks none) : s.Career seen :=
  kept.run.career kept.running asks.landed one

/-- The round of signals that is under way is the first one. -/
lemma few (subscribed : s.Subscribed seen) (one : (launches seen).length = 1)
    (calling : s.phase.calling ≠ []) : (rounds seen).length = 1 := by
  have landed (l : Launch) : s.phase ≠ .launching l := by
    intro phase
    simp [phase, Phase.calling] at calling
  cases kept.run.career kept.running landed one with
  | serving session none =>
    have count := subscribed.count
    rw [none] at count
    exact absurd (List.eq_nil_of_length_eq_zero (Nat.eq_zero_of_add_eq_zero_left count)) calling
  | leaving session past round | past waiting vacant round => exact round

/-- A signal is sent only of a session that is over. -/
lemma past_of_signal (subscribed : s.Subscribed seen) (one : (launches seen).length = 1)
    (asks : s.Asks none) (sent : 0 < (signals seen).length) : s.Over := by
  cases kept.career one asks with
  | serving session none =>
    have count := subscribed.count
    simp only [none, List.length_nil, Nat.add_eq_zero_iff] at count
    exact absurd count.1 (Nat.ne_of_gt sent)
  | leaving session past => exact past
  | past waiting vacant => exact .waiting waiting vacant

/-- A session that is torn down has had its round of signals, and the loop waits again. -/
lemma rested_of_tornDown {generation : Nat} (one : (launches seen).length = 1)
    (asks : s.Asks none) (torn : .tornDown generation ∈ seen) :
    s.phase = .waiting ∧ s.session = none ∧ (rounds seen).length = 1 := by
  cases kept.career one asks with
  | serving session none untorn => exact absurd torn (untorn generation)
  | leaving session past round untorn => exact absurd torn (untorn generation)
  | past waiting vacant round => exact ⟨waiting, vacant, round⟩

/-- When the session is torn down its signal has been sent. -/
lemma signal_of_tornDown {generation : Nat} (subscribed : s.Subscribed seen)
    (one : (launches seen).length = 1) (asks : s.Asks none)
    (torn : .tornDown generation ∈ seen) : (signals seen).length = 1 := by
  obtain ⟨waiting, -, round⟩ := kept.rested_of_tornDown one asks torn
  have count := subscribed.count
  rwa [waiting, round] at count

/-- When the session is torn down there is no more to be waited for. -/
lemma waitIdle?_of_tornDown {generation : Nat} (one : (launches seen).length = 1)
    (asks : s.Asks none) (torn : .tornDown generation ∈ seen) :
    s.waitIdle? = some (.ok ()) := by
  obtain ⟨waiting, vacant, -⟩ := kept.rested_of_tornDown one asks torn
  have idle := (kept.run.coherent.waiting waiting).2.2 vacant
  rw [waitIdle?, if_pos idle]

/-- A stop is asked for. -/
lemma submit (asks : s.Asks none) (step : s.step? (.submit request) = some (t, more)) :
    Kept settings collaborators t seen ∧ t.Asks (some request) ∧
      (s.Subscribed seen → t.Subscribed seen) := by
  have run := kept.run.step step
  cases step?_move kept.run.coherent step with
  | turn own => contradiction
  | enter =>
    rw [List.append_nil] at run
    refine ⟨⟨run, kept.alive, kept.handles⟩, ⟨?_, ?_⟩, fun subscribed => ?_⟩
    · have none := asks.pending
      simp only [pending, Option.toList_none, List.append_eq_nil_iff] at none ⊢
      simp [none]
    · simp [asks.listening]
    · exact ⟨subscribed.waiters, subscribed.channels, subscribed.count⟩
  | refuse held ended =>
    have running := kept.running
    rw [ended] at running
    contradiction
  | apart detached => contradiction

end Kept

lemma published_of_waitIdle? (found : s.waitIdle? = some (.ok ())) : s.published = .idle := by
  unfold waitIdle? at found
  split at found
  case isTrue idle => exact idle
  case isFalse => split at found <;> contradiction

end System

namespace Program
open RaceControl.System
variable {p q : Program} {seen more : List ProgramEffect} {i : ProgramInput} {settings : Settings}
  {collaborators : Collaborators}

/-- What is seen of the supervisor. -/
def effects (seen : List ProgramEffect) : List Effect :=
  seen.filterMap fun
    | .supervisor effect => some effect
    | _ => none

lemma effects_append (seen more : List ProgramEffect) :
    effects (seen ++ more) = effects seen ++ effects more :=
  List.filterMap_append

lemma effects_supervisor (more : List Effect) : effects (more.map .supervisor) = more := by
  simp [effects, List.filterMap_map]

/-- What the answer to a stop tells the program: only one that is ambiguous leaves it open whether
the session is over. -/
def Settled (s : System) : Except SupervisorError Unit → Prop
  | .ok () => s.Over
  | .error e => e.isAmbiguous = false → s.Over

/-- How the supervisor of a launched session stands to its program, which is at a stage and may have
its answer. -/
inductive Stands (s : System) : ProgramStage → Option (Except SupervisorError Unit) → Prop
  | started : s.Asks none → Stands s .starting (some (.ok ()))
  | waiting : s.Asks none → Stands s .waiting none
  | stopping : s.Asks (some ⟨stopTicket, .stop⟩) → Stands s .stopping none
  | stopped {result : Except SupervisorError Unit} : s.Asks none → Settled s result →
    Stands s .stopping (some result)
  | draining : s.Asks none → Stands s .draining none
  | left : s.Asks none → s.Over → Stands s (.left (.ok ())) none

/-- What has become of the one session of a program. -/
inductive OnCourse (p : Program) (seen : List Effect) : Prop
  | embarking {request : Request} : p.stage = .starting → p.reply = none →
    p.system.Asks (some request) → request.demand ≠ .stop → p.system.Embarking seen →
    p.system.Subscribed seen → OnCourse p seen
  | refused {e : SupervisorError} : p.stage = .starting → p.reply = some (.error e) →
    OnCourse p seen
  | failed {cause : ProgramFailure} : p.stage = .left (.error cause) → OnCourse p seen
  | launched : (launches seen).length = 1 → p.system.Subscribed seen →
    Stands p.system p.stage p.reply → OnCourse p seen

section
variable {s t start : System} {seen more : List Effect} {i : Input} {stage : ProgramStage}
  {result : Except SupervisorError Unit} {reply : Option (Except SupervisorError Unit)}

lemma Settled.imp (settled : Settled s result) (past : s.Over → t.Over) : Settled t result := by
  cases result with
  | ok => exact past settled
  | error e => exact fun clear => past (settled clear)

lemma settled_of_truthful (truthful : Truthful start ⟨stopTicket, .stop⟩ s result)
    (waiting : s.phase = .waiting) : Settled s result := by
  cases result with
  | ok => exact .waiting waiting truthful.vacant.session
  | error e =>
    intro clear
    simp only [Truthful, clear] at truthful
    exact .waiting waiting truthful.vacant.session

/-- As soon as a session has been launched, the program asks for its stop at most. -/
lemma Stands.asks (stands : Stands s stage reply) :
    ∃ asked, s.Asks asked ∧ ∀ request ∈ asked, request.demand = .stop := by
  cases stands with
  | started asks | waiting asks | stopped asks | draining asks | left asks =>
    exact ⟨none, asks, by simp⟩
  | stopping asks => exact ⟨_, asks, fun request same => by cases same; rfl⟩

lemma Stands.goesOn (stands : Stands s stage reply) (kept : Kept settings collaborators s seen)
    (uncalled : isUserCall i = false) (step : s.step? i = some (t, more)) :
    Stands t stage (reply <|> answerIn more) := by
  have idle (asks : s.Asks none) : t.Asks none ∧ answerIn more = none := by
    cases kept.replies uncalled step asks with
    | none later silent => exact ⟨later, silent⟩
  cases stands with
  | started asks => exact .started (idle asks).1
  | waiting asks =>
    rw [(idle asks).2]
    exact .waiting (idle asks).1
  | stopping asks =>
    cases kept.replies uncalled step asks with
    | none later silent =>
      rw [silent]
      exact .stopping later
    | some later answered waiting truthful =>
      rw [answered]
      exact .stopped later (settled_of_truthful truthful waiting)
  | stopped asks settled =>
    exact .stopped (idle asks).1 (settled.imp (kept.past uncalled step asks))
  | draining asks =>
    rw [(idle asks).2]
    exact .draining (idle asks).1
  | left asks past =>
    rw [(idle asks).2]
    exact .left (idle asks).1 (kept.past uncalled step asks past)

/-- The supervisor goes on, and the program may get its answer. -/
lemma OnCourse.goesOn (course : p.OnCourse seen)
    (kept : Kept settings collaborators p.system seen) (uncalled : isUserCall i = false)
    (step : p.system.step? i = some (t, more)) :
    OnCourse { p with system := t, reply := p.reply <|> answerIn more } (seen ++ more) := by
  cases course with
  | @embarking request stage none asks start embarking subscribed =>
    -- while the launch is under way no round of signals is
    have few : p.system.phase.calling ≠ [] → (rounds seen).length = 1 := by
      rcases embarking.phase with ⟨phase, -⟩ | ⟨l, phase⟩ <;> simp [phase, Phase.calling]
    have subscribed := kept.subscribed uncalled step subscribed few
    obtain ⟨launched, embarks⟩ := kept.embarking uncalled step asks start embarking
    cases kept.replies uncalled step asks with
    | none later silent =>
      refine .embarking stage ?_ later start (embarks later) subscribed
      rw [none, silent]
      rfl
    | @some _ _ result later answered waiting truthful =>
      have answered : (p.reply <|> answerIn more) = some result := by
        rw [none, answered]
        rfl
      cases result with
      | error e => exact .refused stage answered
      | ok =>
        obtain ⟨ticket, demand⟩ := request
        cases demand with
        | stop => contradiction
        | start e a =>
          obtain ⟨x, session⟩ := Option.isSome_iff_exists.mp truthful.1
          refine .launched ?_ subscribed ?_
          · rw [launched, present, session]
            rfl
          · rw [stage, answered]
            exact .started later
  | @refused e stage failed =>
    have failed : (p.reply <|> answerIn more) = some (.error e) := by
      rw [failed]
      rfl
    exact .refused stage failed
  | failed stage => exact .failed stage
  | launched one subscribed stands =>
    obtain ⟨asked, asks, stop⟩ := stands.asks
    refine .launched ?_ (kept.subscribed uncalled step subscribed (kept.few subscribed one))
      (stands.goesOn kept uncalled step)
    rw [kept.launches_append_of_stop step asks stop, one]

lemma hear_stopping (reply : Option (Except SupervisorError Unit)) (e : SupervisorError) :
    Program.hear ⟨s, .stopping, reply⟩ (.error e) =
      if e.isAmbiguous then some (⟨s, .draining, none⟩, [.reported e])
      else some (⟨s, .left (.ok ()), none⟩, [.reported e, .noticed .leaving]) := rfl

/-- The program hears its answer. -/
lemma OnCourse.hear {shown : List ProgramEffect} (course : p.OnCourse seen)
    (answered : p.reply = some result) (heard : p.hear result = some (q, shown)) :
    q.system = p.system ∧ effects shown = [] ∧ q.OnCourse seen := by
  obtain ⟨system, stage, reply⟩ := p
  obtain rfl : reply = some result := answered
  cases course with
  | embarking stage none => contradiction
  | refused starting failed =>
    obtain rfl : stage = .starting := starting
    obtain rfl := Option.some.inj failed
    cases heard
    exact ⟨rfl, rfl, .failed rfl⟩
  | failed left =>
    obtain rfl : stage = .left _ := left
    contradiction
  | launched one subscribed stands =>
    cases stands with
    | started asks =>
      cases heard
      exact ⟨rfl, rfl, .launched one subscribed (.waiting asks)⟩
    | stopped asks settled =>
      cases result with
      | ok =>
        cases heard
        exact ⟨rfl, rfl, .launched one subscribed (.left asks settled)⟩
      | error e =>
        rw [hear_stopping] at heard
        split at heard
        case isTrue ambiguous =>
          cases heard
          exact ⟨rfl, rfl, .launched one subscribed (.draining asks)⟩
        case isFalse clear =>
          cases heard
          have past := settled (eq_false_of_ne_true clear)
          exact ⟨rfl, rfl, .launched one subscribed (.left asks past)⟩

end

/-- Where a program waits for nothing but the end, its session has been launched and its supervisor
is not asked for anything. -/
lemma OnCourse.abides {seen : List Effect} (course : p.OnCourse seen)
    (stage : p.stage = .waiting ∨ p.stage = .draining) :
    (launches seen).length = 1 ∧ p.system.Subscribed seen ∧ p.system.Asks none ∧
      p.reply = none := by
  cases course with
  | embarking other | refused other | failed other => simp [other] at stage
  | launched one subscribed stands =>
    generalize reply : p.reply = answer at stands
    rcases stage with stage | stage <;> rw [stage] at stands
    · cases stands with
      | waiting asks => exact ⟨one, subscribed, asks, rfl⟩
    · cases stands with
      | draining asks => exact ⟨one, subscribed, asks, rfl⟩

lemma OnCourse.leave {seen : List Effect} (course : p.OnCourse seen)
    (stage : p.stage = .waiting ∨ p.stage = .draining) (past : p.system.Over) :
    (p.leave (.ok ())).OnCourse seen := by
  obtain ⟨one, subscribed, asks, unheard⟩ := course.abides stage
  refine .launched one subscribed ?_
  rw [show (p.leave (.ok ())).reply = none from unheard]
  exact .left asks past

lemma isDone_iff {seen : List Effect} (subscribed : p.system.Subscribed seen) :
    p.isDone = true ↔ 0 < (signals seen).length := by
  simp [isDone, subscribed.channels, doneChannel]

/-- A step of a program keeps it on its course. -/
lemma OnCourse.step (course : p.OnCourse (effects seen))
    (kept : Kept settings collaborators p.system (effects seen))
    (step : p.step? i = some (q, more)) :
    Kept settings collaborators q.system (effects (seen ++ more)) ∧
      q.OnCourse (effects (seen ++ more)) := by
  have apart (silent : effects more = [])
      (kept : Kept settings collaborators q.system (effects seen))
      (course : q.OnCourse (effects seen)) :
      Kept settings collaborators q.system (effects (seen ++ more)) ∧
        q.OnCourse (effects (seen ++ more)) := by
    rw [effects_append, silent, List.append_nil]
    exact ⟨kept, course⟩
  cases i with
  | supervisor i =>
    simp only [step?] at step
    split at step
    case isTrue => contradiction
    case isFalse uncalled =>
      have uncalled : isUserCall i = false := by simpa using uncalled
      obtain ⟨⟨t, shown⟩, due, same⟩ := Option.map_eq_some_iff.mp step
      cases same
      rw [effects_append, effects_supervisor]
      exact ⟨kept.goesOn uncalled due, course.goesOn kept uncalled due⟩
  | hear =>
    obtain ⟨result, answered, heard⟩ := Option.bind_eq_some_iff.mp step
    obtain ⟨same, silent, course⟩ := course.hear answered heard
    exact apart silent (by rwa [same]) course
  | seeDone =>
    simp only [step?] at step
    split at step
    case h_1 stage =>
      split at step
      case isTrue done =>
        cases step
        obtain ⟨one, subscribed, asks, -⟩ := course.abides (.inl stage)
        have sent := (isDone_iff subscribed).mp done
        have past := kept.past_of_signal subscribed one asks sent
        exact apart rfl kept (course.leave (.inl stage) past)
      case isFalse => contradiction
    case h_2 => contradiction
  | interrupt =>
    simp only [step?] at step
    split at step
    case h_1 stage =>
      obtain ⟨⟨t, shown⟩, due, same⟩ := Option.map_eq_some_iff.mp step
      cases same
      obtain ⟨one, subscribed, asks, unheard⟩ := course.abides (.inl stage)
      obtain ⟨kept, asks, subscribes⟩ := kept.submit asks due
      refine apart rfl kept (.launched one (subscribes subscribed) ?_)
      rw [unheard]
      exact .stopping asks
    case h_2 => contradiction
  | seeIdle =>
    simp only [step?] at step
    split at step
    case h_1 stage found =>
      cases step
      obtain ⟨-, -, asks, -⟩ := course.abides (.inr stage)
      have past := kept.past_of_idle asks (published_of_waitIdle? found)
      exact apart rfl kept (course.leave (.inr stage) past)
    case h_2 =>
      cases step
      exact apart rfl kept (.failed rfl)
    case h_3 => contradiction

/-- A program that begins has registered for the end of the session that it asks for. -/
lemma onCourse_begin (settings : Settings) (tables : LaunchTables) :
    Kept settings ⟨false, false⟩ (begin settings tables).system [] ∧
      (begin settings tables).OnCourse [] := by
  have steps : (fresh settings ⟨false, false⟩).steps?
      [.openChannel doneCapacity, .submit ⟨startTicket, .start ⟨tables.description⟩
        (.direct tables.server.udpPluginAddress tables.server.udpPluginLocalPort)⟩] =
      some ((begin settings tables).system, []) := rfl
  refine ⟨⟨System.Run.none.steps steps, nofun, rfl⟩, ?_⟩
  exact .embarking rfl rfl ⟨rfl, rfl⟩ nofun ⟨.inl ⟨rfl, rfl⟩, rfl⟩ ⟨rfl, rfl, rfl⟩

lemma Run.onCourse {tables : LaunchTables} (run : Run (begin settings tables) p seen) :
    Kept settings ⟨false, false⟩ p.system (effects seen) ∧ p.OnCourse (effects seen) := by
  induction run with
  | none => exact onCourse_begin settings tables
  | step run step ih => exact ih.2.step ih.1 step

/-- What a program owes its session, after all that was seen. -/
structure SeesOut (p : Program) (seen : List ProgramEffect) : Prop where
  /-- A program that leaves without a failure has launched one session; nothing is left of it. -/
  leaves : p.stage = .left (.ok ()) →
    (∃ generation, launches (effects seen) = [generation]) ∧ p.system.Dissolved (effects seen)
  /-- While the program waits, the signal of a session that is torn down is there to be seen. -/
  waits : p.stage = .waiting →
    (∃ generation, launches (effects seen) = [generation]) ∧
      ∀ generation, .tornDown generation ∈ effects seen →
        p.system.channels[doneChannel]? = some ⟨doneCapacity, 1, false⟩ ∧
          p.step? .seeDone = some (p.leave (.ok ()), [.noticed .exited, .noticed .leaving])
  /-- The wait behind a stop that has run out of time ends with the session. -/
  drains : p.stage = .draining →
    (∃ generation, launches (effects seen) = [generation]) ∧
      ∀ generation, .tornDown generation ∈ effects seen →
        p.step? .seeIdle = some (p.leave (.ok ()), [.noticed .leaving])

/-- A file from which a program can begin gives it its settings and its tables. -/
lemma eq_begin_of_ofFile {file : SettingsFile} {start : Program} {tables : LaunchTables}
    (begun : ofFile file = .ok (start, tables)) : ∃ settings, start = begin settings tables := by
  unfold ofFile at begun
  split at begun
  case h_1 => contradiction
  case h_2 => contradiction
  case h_3 =>
    cases begun
    exact ⟨_, rfl⟩

theorem Run.seesOut {file : SettingsFile} {start : Program} {tables : LaunchTables}
    (begun : ofFile file = .ok (start, tables)) (run : Run start p seen) : SeesOut p seen := by
  obtain ⟨settings, rfl⟩ := eq_begin_of_ofFile begun
  obtain ⟨kept, course⟩ := run.onCourse
  constructor
  · intro stage
    cases course with
    | embarking other | refused other | failed other => simp [stage] at other
    | launched one subscribed stands =>
      rw [stage] at stands
      generalize p.reply = reply at stands
      cases stands with
      | left asks past => exact ⟨List.length_eq_one_iff.mp one, past.dissolved kept.run⟩
  · intro stage
    obtain ⟨one, subscribed, asks, -⟩ := course.abides (.inl stage)
    refine ⟨List.length_eq_one_iff.mp one, fun generation torn => ?_⟩
    have sent := kept.signal_of_tornDown subscribed one asks torn
    have done : p.isDone = true := (isDone_iff subscribed).mpr (by simp [sent])
    refine ⟨by simp [subscribed.channels, doneChannel, sent], ?_⟩
    simp [step?, stage, done]
  · intro stage
    obtain ⟨one, subscribed, asks, -⟩ := course.abides (.inr stage)
    refine ⟨List.length_eq_one_iff.mp one, fun generation torn => ?_⟩
    have idle := kept.waitIdle?_of_tornDown one asks torn
    simp [step?, stage, idle]

/-! ## A server that ends early -/

/-- Takes one step after another, as long as each of them is due. -/
def steps? (p : Program) : List ProgramInput → Option (Program × List ProgramEffect)
  | [] => some (p, [])
  | i :: rest =>
    (p.step? i).bind fun (q, more) => (q.steps? rest).map fun (r, later) => (r, more ++ later)

lemma Run.steps {start : Program} {later : List ProgramEffect} {inputs : List ProgramInput}
    (run : Run start p seen) (steps : p.steps? inputs = some (q, later)) :
    Run start q (seen ++ later) := by
  induction inputs generalizing p seen later with
  | nil =>
    cases steps
    simpa using run
  | cons i rest ih =>
    obtain ⟨⟨u, more⟩, step, steps⟩ := Option.bind_eq_some_iff.mp steps
    obtain ⟨⟨v, last⟩, remaining, same⟩ := Option.map_eq_some_iff.mp steps
    cases same
    rw [← List.append_assoc]
    exact ih (run.step step) remaining

/-- A file that names the address of the server and nothing else. -/
def addressed : String := "[server_options]\nudp_plugin_address = ':9000'\n"

def addressedTables : LaunchTables :=
  { LaunchTables.empty with server := { ServerOptions.unset with udpPluginAddress := ":9000" } }

lemma scan_addressed : Toml.Token.scan addressed =
    some [.openBracket, .word "server_options".toList, .closeBracket, .newline,
      .word "udp_plugin_address".toList, .blanks [' '], .equals, .blanks [' '],
      .quoted ":9000".toList false, .newline] := by rfl

lemma sections_addressed : Toml.document? addressed =
    some [⟨["server_options"], false, [("udp_plugin_address", .plain (.text ":9000"))]⟩] := by
  rw [Toml.document?, scan_addressed]
  rfl

lemma parse?_addressed : Toml.parse? addressed =
    some (.record [("server_options", .record [("udp_plugin_address", .text ":9000")])]) := by
  rw [Toml.parse?, sections_addressed]
  simp [Toml.table?, Toml.Stock.ofSections, Toml.Stock.measure, Toml.Stock.next?, Toml.Stock.path,
    Toml.Stock.first?, Toml.Stock.isItem, Toml.Stock.entries, Toml.Stock.place, List.findIdx?_cons,
    Toml.members, Toml.Value.datum]

lemma ofFile_addressed : ofFile (.bytes (Utf8.encode addressed.toList)) =
    .ok (begin .standard addressedTables, addressedTables) := by
  have text : SettingsFile.text? (.bytes (Utf8.encode addressed.toList)) =
      .ok (some addressed) := by
    simp only [SettingsFile.text?, Utf8.decode?_eq_some_iff.mpr rfl, String.ofList_toList]
  have settings : Settings.ofToml? addressed = some .standard := by
    rw [Settings.ofToml?, parse?_addressed]
    rfl
  have tables : LaunchTables.ofToml? addressed = some addressedTables := by
    rw [LaunchTables.ofToml?, parse?_addressed]
    rfl
  simp only [ofFile, SettingsFile.settings, LaunchTables.ofFile?, text, settings, tables]

/-- A session is launched and torn down before the program hears of the launch. -/
def earlyInputs : List ProgramInput :=
  let inputs : List Input :=
    .poll 0 (.ok ()) :: List.replicate 11 (.proceed obliging) ++ exitInputs 1 0 ++
      [.proceed obliging]
  inputs.map .supervisor ++ [.hear]

theorem seesOut_early :
    ∃ start tables p seen q more,
      ofFile (.bytes (Utf8.encode addressed.toList)) = .ok (start, tables) ∧ Run start p seen ∧
        p.stage = .waiting ∧ .tornDown 1 ∈ effects seen ∧ SeesOut p seen ∧
        p.step? .seeDone = some (q, more) ∧ q.stage = .left (.ok ()) ∧
        SeesOut q (seen ++ more) := by
  obtain ⟨⟨p, seen⟩, steps, stage, last⟩ :
      ∃ out ∈ (begin .standard addressedTables).steps? earlyInputs, out.1.stage = .waiting ∧
        (effects out.2).getLast? = some (.tornDown 1) := ⟨_, rfl, rfl, rfl⟩
  have run : Run (begin .standard addressedTables) p seen := Run.none.steps steps
  have torn : .tornDown 1 ∈ effects seen := List.mem_of_getLast? last
  have waits := run.seesOut ofFile_addressed
  obtain ⟨-, left⟩ := (waits.waits stage).2 1 torn
  exact ⟨_, _, p, seen, _, _, ofFile_addressed, run, stage, torn, waits, left, rfl,
    (run.step left).seesOut ofFile_addressed⟩

end Program
end RaceControl
