import Mathlib.Data.Prod.Lex
import RaceControl.Proofs.Supervisor.Exits
import RaceControl.Proofs.Supervisor.Requests
import RaceControl.Supervisor.Call

/-!
Every request that has entered the queue is answered. A step of the loop is due as long as one has
not been, and what is left to be done before its answer grows less with each of them.
-/
namespace RaceControl

/-- The stages that a launch still has before it, and the processes that it still starts in the one
it stands at. -/
def LaunchStage.ahead : LaunchStage → Nat × Nat
  | .announce => (10, 0)
  | .readDirectory => (9, 0)
  | .readOptions _ => (8, 0)
  | .openRelay .. => (7, 0)
  | .startServer .. => (6, 0)
  | .adopt .. => (5, 0)
  | .startWrapper .. => (4, 0)
  | .startTracker .. => (3, 0)
  | .startPlugins _ remaining => (2, remaining.length)
  | .startCommands _ remaining => (1, remaining.length)
  | .finish => (0, 0)

def TeardownStage.ahead : TeardownStage → Nat × Nat
  | .forget => (6, 0)
  | .closeRelay _ => (5, 0)
  | .stopWrapper => (4, 0)
  | .killChildren => (3, 0)
  | .prune => (2, 0)
  | .signal remaining => (1, remaining.length)
  | .finish => (0, 0)

namespace System
variable {s t u : System} {more : List Effect} {i : Input}

/-- How much the loop has still to do until it has dealt with what it works on, or else with the
session. -/
def effort (s : System) : ℕ ×ₗ ℕ :=
  match s.phase with
  | .stopping stop => toLex (if stop.killed then 27 else 28, 0)
  | .tearingDown stage (.finishStop _) => toLex (20 + stage.ahead.1, stage.ahead.2)
  | .launching l => toLex (9 + l.stage.ahead.1, l.stage.ahead.2)
  | .waiting => toLex (if s.session.isSome then 8 else 0, 0)
  | .tearingDown stage _ => toLex (1 + stage.ahead.1, stage.ahead.2)
  | .finished | .destroyed => toLex (0, 0)

lemma effort_lt {a b c d : Nat} (fewer : a < b) : toLex (a, c) < toLex (b, d) :=
  Prod.Lex.toLex_lt_toLex.mpr (.inl fewer)

lemma effort_waiting_lt {a b : Nat} (session : Option Session) (many : 8 < a) :
    toLex (if session.isSome then 8 else 0, 0) < toLex (a, b) := by
  refine effort_lt ?_
  split <;> omega

lemma Turn.effort (turn : s.Turn t more) (coherent : s.Coherent)
    (current : ∀ exit exits next, s.Attends next → s.exits = exit :: exits →
      ∃ x, s.session = some x ∧ x.generation = exit.generation) :
    (s.requests = [] ∨ ∃ request, .took request ∈ more) ∧ s.phase = .waiting ∨
      t.effort < s.effort := by
  have fits := coherent.phase
  have tearing (stage later : TeardownStage) (next : Resumption)
      (fewer : toLex later.ahead < toLex stage.ahead) (phase : s.phase = .tearingDown stage next)
      (after : t.phase = .tearingDown later next) : t.effort < s.effort := by
    rw [Prod.Lex.toLex_lt_toLex] at fewer
    cases next <;>
      simp only [System.effort, phase, after, Prod.Lex.toLex_lt_toLex] <;> omega
  cases turn with
  | announce phase stage | findDirectory phase stage _ | loadOptions phase stage _
  | openRelay phase stage _ | startServer phase stage _ | adopt phase stage
  | requestWrapper phase stage =>
    right
    simp only [System.effort, phase, stage]
    exact effort_lt (by simp [LaunchStage.ahead])
  | fail phase failure =>
    right
    simp only [System.effort, phase]
    exact effort_waiting_lt _ (by omega)
  | auxiliary phase start =>
    right
    cases start with
    | tracker stage | lastPlugin stage | lastCommand stage =>
      simp only [System.effort, phase, stage]
      exact effort_lt (by simp [LaunchStage.ahead])
    | plugin stage | command stage =>
      simp [System.effort, phase, stage, LaunchStage.ahead, Prod.Lex.toLex_lt_toLex]
  | activate phase stage =>
    right
    simp only [System.effort, phase, stage]
    exact effort_waiting_lt _ (by omega)
  | beginVacant phase quiet session occasion | beginStop now phase quiet session occasion =>
    refine .inl ⟨?_, phase⟩
    cases occasion with
    | request => exact .inr ⟨_, List.mem_append_left _ (List.mem_singleton_self _)⟩
    | shutdown none => exact .inl none
  | exit attends queue session generation =>
    right
    cases attends with
    | waiting phase =>
      simp only [System.effort, phase, session]
      exact effort_lt (by simp [TeardownStage.ahead])
    | stopping phase =>
      simp only [System.effort, phase]
      refine effort_lt ?_
      split <;> simp [TeardownStage.ahead]
  | staleExit attends queue stale =>
    obtain ⟨x, session, same⟩ := current _ _ _ attends queue
    exact absurd same (stale x session)
  | kill phase quiet fresh grace =>
    right
    simp only [System.effort, phase, fresh]
    exact effort_lt (by simp)
  | giveUp phase =>
    right
    simp only [System.effort, phase]
    exact effort_waiting_lt _ (by split <;> omega)
  | leave phase =>
    right
    simp only [System.effort, phase]
    exact effort_lt (by split <;> omega)
  | forget phase | closeRelay phase | stopWrapper phase | killChildren env phase | prune phase
  | signalled phase =>
    exact .inr (tearing _ _ _ (effort_lt (by simp)) phase rfl)
  | signal phase =>
    refine .inr (tearing _ _ _ ?_ phase rfl)
    simp [TeardownStage.ahead, Prod.Lex.toLex_lt_toLex]
  | @tearDown x next phase session =>
    right
    simp only [PhaseFits, phase] at fits
    cases next with
    | wait =>
      simp only [resume, enter, System.effort, phase]
      exact effort_lt (by simp [TeardownStage.ahead])
    | keepStopping stop => exact fits.2.2.elim
    | finishStop purpose =>
      cases purpose with
      | stop ticket =>
        simp only [resume, finishStop, answer, enter, System.effort, phase]
        exact effort_lt (by simp [TeardownStage.ahead])
      | relaunch ticket e addressing =>
        simp only [resume, finishStop, enter, System.effort, phase]
        exact effort_lt (by simp [LaunchStage.ahead, TeardownStage.ahead])
      | shutdown =>
        simp only [resume, finishStop, enter, System.effort, phase]
        exact effort_lt (by simp [TeardownStage.ahead])

/-- The work before the answer to a request that has `before` ahead of it. A request that is worked
on is nearer to its answer than one that waits. -/
def workload (s : System) (before : List Request) : ℕ ×ₗ ℕ ×ₗ ℕ :=
  toLex (2 * before.length + if s.phase.request?.isSome then 0 else 1, s.effort)

/-- A turn answers the oldest request, or leaves less to do for each. -/
lemma Turn.workload (turn : s.Turn t more) (coherent : s.Coherent)
    (current : ∀ exit exits next, s.Attends next → s.exits = exit :: exits →
      ∃ x, s.session = some x ∧ x.generation = exit.generation)
    {before after : List Request} {request : Request}
    (waits : s.pending = before ++ request :: after) :
    (∃ result isHeard, .answered request.ticket result isHeard ∈ more) ∨
      ∃ later, t.pending = later ++ request :: after ∧ t.workload later < s.workload before := by
  have nearer {later : List Request} (less : 2 * later.length +
      (if t.phase.request?.isSome then 0 else 1) < 2 * before.length +
      (if s.phase.request?.isSome then 0 else 1)) : t.workload later < s.workload before :=
    Prod.Lex.toLex_lt_toLex.mpr (.inl less)
  have answered {result : Except SupervisorError Unit} {isHeard : Bool}
      (dealt : .answered request.ticket result isHeard ∈ dealings more) :
      ∃ result isHeard, .answered request.ticket result isHeard ∈ more :=
    ⟨_, _, (List.mem_filter.mp dealt).1⟩
  cases turn.deals with
  | goesOn none same requests =>
    have kept : t.pending = s.pending := by rw [pending, pending, same, requests]
    refine .inr ⟨before, kept.trans waits, Prod.Lex.toLex_lt_toLex.mpr (.inr ⟨by rw [same], ?_⟩)⟩
    rcases turn.effort coherent current with ⟨empty | ⟨taken, took⟩, waiting⟩ | less
    · simp [pending, waiting, empty] at waits
    · have dealt := mem_dealings took rfl
      rw [none] at dealt
      contradiction
    · exact less
  | @takes taken waiting quiet queue working took =>
    have kept : t.pending = s.pending := by
      simp [pending, working, waiting, queue]
    exact .inr ⟨before, kept.trans waits, nearer (by simp [waiting, working])⟩
  | @answers answeree result working waiting requests other dealt =>
    rw [pending, working, Option.toList_some, List.singleton_append] at waits
    cases before with
    | nil =>
      obtain ⟨rfl, -⟩ := List.cons.inj waits
      exact .inl (answered (dealt ▸ List.mem_singleton_self _))
    | cons first rest =>
      refine .inr ⟨rest, ?_, nearer ?_⟩
      · rw [pending, waiting, requests]
        exact (List.cons.inj waits).2
      · simp [waiting, working]
        omega
  | @serves answeree result waiting quiet queue waits' other dealt =>
    rw [pending, waiting, queue] at waits
    cases before with
    | nil =>
      obtain ⟨rfl, -⟩ := List.cons.inj waits
      exact .inl (answered (dealt ▸ List.mem_cons_of_mem _ (List.mem_singleton_self _)))
    | cons first rest =>
      refine .inr ⟨rest, ?_, nearer ?_⟩
      · rw [pending, waits']
        exact (List.cons.inj waits).2
      · simp [waiting, waits']

/-- What can become of a supervisor while its loop takes no step and is not destroyed. -/
inductive Around (s : System) : System → Prop
  | none : Around s s
  | step {u v : System} {i : Input} {more : List Effect} : Around s u → i.isOwn = false →
    i ≠ .destroy → u.step? i = some (v, more) → Around s v

/-- Whatever happens around the loop, it has a step to take, and after finitely many of its steps
the call with this ticket is answered. -/
inductive Settles (ticket : Nat) : System → Prop
  | later {s : System} :
    (∀ u, Around s u → ∃ moment, ∀ now kill env, moment ≤ now →
      (u.poll now kill).isSome = true ∨ (u.proceed env).isSome = true) →
    (∀ u t more i, Around s u → i.isOwn = true → u.step? i = some (t, more) →
      (∀ result isHeard, .answered ticket result isHeard ∉ more) → Settles ticket t) →
    Settles ticket s

variable {settings : Settings} {collaborators : Collaborators} {seen : List Effect}

/-- What happens around the loop changes neither what it works on nor the order of requests. -/
lemma Around.kept {before after : List Request} {request : Request} (around : Around s u)
    (run : Run (fresh settings collaborators) s seen)
    (waits : s.pending = before ++ request :: after) :
    (∃ seen, Run (fresh settings collaborators) u seen) ∧ u.phase = s.phase ∧
      (∃ after, u.pending = before ++ request :: after) ∧
        u.workload before = s.workload before := by
  induction around with
  | none => exact ⟨⟨seen, run⟩, rfl, ⟨after, waits⟩, rfl⟩
  | @step u v i more _ other alive step ih =>
    obtain ⟨⟨seen, run⟩, phase, ⟨after, waits⟩, load⟩ := ih
    refine ⟨⟨_, run.step step⟩, ?_⟩
    have kept (same : v.phase = u.phase) (session : v.session = u.session)
        (requests : ∃ more, v.requests = u.requests ++ more) :
        v.phase = s.phase ∧ (∃ after, v.pending = before ++ request :: after) ∧
          v.workload before = s.workload before := by
      obtain ⟨new, requests⟩ := requests
      refine ⟨same.trans phase, ⟨after ++ new, ?_⟩, ?_⟩
      · rw [pending, same, requests, ← List.append_assoc, ← pending, waits, List.append_assoc,
          List.cons_append]
      · rw [← load, System.workload, System.workload, System.effort, System.effort, same, session]
    cases step?_move run.coherent step with
    | turn own => simp [own] at other
    | enter => exact kept rfl rfl ⟨_, rfl⟩
    | refuse | hangUp | notice | report => exact kept rfl rfl ⟨[], (List.append_nil _).symm⟩
    | apart detached apart =>
      exact kept apart.phase apart.session ⟨[], by rw [apart.requests, List.append_nil]⟩
    | destroy => exact absurd rfl alive

/-- Where a request has not been answered yet, the loop has not ended, and has been asked. -/
lemma Run.asked {before after : List Request} {request : Request}
    (run : Run (fresh settings collaborators) s seen) (alive : s.phase ≠ .destroyed)
    (waits : s.pending = before ++ request :: after) :
    s.phase.isOver = false ∧ (s.phase = .waiting → s.requests ≠ []) := by
  have asked (none : s.phase.request? = Option.none) : s.requests ≠ [] := by
    intro empty
    simp [pending, none, empty] at waits
  refine ⟨?_, fun waiting => asked (by rw [waiting]; rfl)⟩
  cases phase : s.phase with
  | finished =>
    have closing : s.IsClosing := by simp only [IsClosing, phase]
    exact absurd (run.requests_of_isClosing closing) (asked (by rw [phase]; rfl))
  | destroyed => exact absurd phase alive
  | waiting | launching | stopping | tearingDown => rfl

/-- Every request that has not been answered yet will be. -/
lemma Run.settles {before after : List Request} {request : Request}
    (run : Run (fresh settings collaborators) s seen) (alive : s.phase ≠ .destroyed)
    (waits : s.pending = before ++ request :: after) : Settles request.ticket s := by
  generalize work : s.workload before = load
  induction load using WellFoundedLT.induction generalizing s seen before after with
  | ind load ih =>
    subst work
    refine .later (fun u around => ?_) fun u t more i around own step unanswered => ?_
    · obtain ⟨⟨seen, run⟩, phase, ⟨after, waits⟩, -⟩ := around.kept run waits
      obtain ⟨busy, asked⟩ := run.asked (phase ▸ alive) waits
      exact exists_due busy asked
    · obtain ⟨⟨seen, run⟩, phase, ⟨after, waits⟩, load⟩ := around.kept run waits
      cases step?_move run.coherent step with
      | turn own turn =>
        rcases turn.workload run.coherent (fun _ _ _ => run.current) waits with
          ⟨result, isHeard, answered⟩ | ⟨later, waits, less⟩
        · exact absurd answered (unanswered result isHeard)
        · exact ih _ (load ▸ less) (run.step step) turn.alive waits rfl
      | apart detached => cases i <;> contradiction
      | _ => contradiction

/-- What a run with its record tells of the service to callers. -/
structure Served (s : System) (record : List Occurrence) : Prop where
  /-- The requests are taken in the order in which they have entered, each once, and each is
  answered before the next is taken. -/
  order : ∃ exchanges : List Exchange,
    dealings (shown record) =
      exchanges.flatMap Exchange.dealings ++ s.phase.request?.toList.map .took ∧
    entered record = exchanges.map (·.request) ++ s.pending
  /-- An answer reaches the caller who has asked, unless he has left. -/
  heard : ∀ {i t more ticket result isHeard}, i ≠ .destroy → s.step? i = some (t, more) →
    .answered ticket result isHeard ∈ more → (isHeard = true ↔ ticket ∉ left record)
  /-- An exit that waits goes before every request. -/
  quiet : ∀ {i t more request}, s.step? i = some (t, more) → .took request ∈ more → s.exits = []
  /-- Every request is answered in the end. -/
  settles : ∀ request ∈ s.pending, Settles request.ticket s
  /-- The loop ends by itself only without handles, and has then answered everyone. -/
  finished : s.phase = .finished → s.handles = 0 ∧ s.pending = [] ∧ s.listening = []
  /-- Nobody is told that the loop is closed, and as long as there are handles it is not. -/
  isOpen : (∀ ticket isHeard, .answered ticket (.error .loopClosed) isHeard ∉ shown record) ∧
    (s.handles ≠ 0 → s.phase.isOver = false ∧ s.waitIdle? ≠ some (.error .loopClosed))

/-- Until the loop is destroyed nobody is told that it is closed. -/
lemma Run.never_closed {ticket : Nat} {isHeard : Bool}
    (run : Run (fresh settings collaborators) s seen) (alive : s.phase ≠ .destroyed) :
    .answered ticket (.error .loopClosed) isHeard ∉ seen := by
  refine run.keeps_alive (P := fun _ seen => .answered ticket (.error .loopClosed) isHeard ∉ seen)
    (by simp) ?_ alive
  intro s t seen more i run kept move alive shown
  rcases List.mem_append.mp shown with before | now
  · exact kept before
  · exact (move.answered run alive now).2.2.1 rfl

theorem Recorded.served {record : List Occurrence}
    (recorded : Recorded (fresh settings collaborators) s record) (alive : s.phase ≠ .destroyed) :
    s.Served record where
  order := by
    obtain ⟨exchanges, dealt, entered⟩ := (recorded.books alive).order
    exact ⟨exchanges, dealt, by rw [entered, pending, List.append_assoc]⟩
  heard other step answered := by
    have move := step?_move recorded.run.coherent step
    obtain ⟨waits, rfl, -⟩ := move.answered recorded.run (move.alive alive other) answered
    rw [List.contains_iff_mem, (recorded.books alive).listening]
    exact and_iff_right waits
  quiet := recorded.run.quiet_of_took
  settles request waits := by
    obtain ⟨before, after, split⟩ := List.append_of_mem waits
    exact recorded.run.settles alive split
  finished phase := by
    have closing : s.IsClosing := by simp only [IsClosing, phase]
    have none : s.pending = [] := by
      rw [pending, recorded.run.requests_of_isClosing closing, phase]
      rfl
    refine ⟨recorded.run.handles_of_isClosing closing, none, ?_⟩
    refine List.eq_nil_iff_forall_not_mem.mpr fun ticket listens => ?_
    have waits := (((recorded.books alive).listening ticket).mp listens).1
    rw [← pending, none] at waits
    contradiction
  isOpen := by
    refine ⟨fun ticket isHeard => recorded.run.never_closed alive, fun handles => ?_⟩
    have running := recorded.run.isOver_eq_false alive handles
    refine ⟨running, ?_⟩
    rw [waitIdle?, running]
    split <;> simp

/-- Two requests enter, and the first caller leaves before his request is dealt with. -/
theorem served_left :
    ∃ s record, Recorded (fresh .standard ⟨false, false⟩) s record ∧ s.phase ≠ .destroyed ∧
      s.Served record ∧
      dealings (shown record) = [.took ⟨1, .stop⟩, .answered 1 (.ok ()) false] ∧
      s.pending = [⟨2, .start ⟨"race"⟩ (.direct ":9000" 9001)⟩] := by
  have first : Recorded (fresh .standard ⟨false, false⟩) _ _ := .none
  have second := first.step (i := .submit ⟨1, .stop⟩) (by simp [entered]) rfl
  have third := second.step (i := .submit ⟨2, .start ⟨"race"⟩ (.direct ":9000" 9001)⟩)
    (by
      rintro _ ⟨⟩ earlier member
      have same : earlier = ⟨1, .stop⟩ := List.mem_singleton.mp member
      simp [same]) rfl
  have fourth := third.step (i := .hangUp 1) (by simp) rfl
  have last := fourth.step (i := .poll 0 (.ok ())) (by simp) rfl
  exact ⟨_, _, last, by decide, last.served (by decide), rfl, rfl⟩

end System
end RaceControl
