import RaceControl.Proofs.Supervisor.Recollection
import RaceControl.Supervisor.Client

/-!
What a restart starts: the event of the session that was launched last, with the addressing of the
launch that tried last to open a relay. The two belong to one launch unless a later one has failed.
-/
namespace RaceControl

namespace Client
open RaceControl.System
variable {c d : Client} {s t : System} {more : List Effect} {i : Input}

lemma findSome?_dealings (ticket : Nat) (more : List Effect) :
    more.findSome? (result? ticket) = (dealings more).findSome? (result? ticket) := by
  induction more with
  | nil => rfl
  | cons effect rest ih =>
    cases dealing : effect.isDealing with
    | true =>
      rw [dealings, List.filter_cons_of_pos dealing, List.findSome?_cons, List.findSome?_cons, ih]
      rfl
    | false =>
      have silent : result? ticket effect = none := by
        cases effect with
        | answered => contradiction
        | _ => rfl
      rw [dealings, List.filter_cons_of_neg (by simp [dealing]), List.findSome?_cons, silent]
      exact ih

lemma findSome?_eq_none (none : dealings more = []) (ticket : Nat) :
    more.findSome? (result? ticket) = Option.none := by
  rw [findSome?_dealings, none]
  rfl

/-- What a step of others does for the requests that wait for an answer. -/
lemma replies (move : s.Move i t more) (left : isLeft i = true) :
    ((∀ ticket, more.findSome? (result? ticket) = none) ∧ t.pending = s.pending) ∨
      ∃ request result, s.pending = request :: t.pending ∧ IsReply result ∧
        more.findSome? (result? request.ticket) = some result := by
  cases move with
  | turn own turn =>
    cases turn.deals with
    | goesOn none current requests =>
      exact .inl ⟨findSome?_eq_none none, by rw [pending, pending, current, requests]⟩
    | takes waiting quiet queue current took =>
      refine .inl ⟨fun ticket => ?_, by simp [pending, waiting, queue, current]⟩
      rw [findSome?_dealings, took]
      rfl
    | @answers request result current waiting requests reply answered =>
      refine .inr ⟨request, result, by simp [pending, waiting, current, requests], reply, ?_⟩
      rw [findSome?_dealings, answered]
      simp [result?]
    | @serves request result waiting quiet queue waits reply answered =>
      refine .inr ⟨request, result, by simp [pending, waiting, waits, queue], reply, ?_⟩
      rw [findSome?_dealings, answered, List.findSome?_cons]
      simp [result?]
  | enter | refuse | hangUp | destroy => contradiction
  | notice member racing beside quiet =>
    exact .inl ⟨findSome?_eq_none (beside.dealings quiet), rfl⟩
  | report => exact .inl ⟨fun ticket => rfl, rfl⟩
  | apart detached apart =>
    refine .inl ⟨findSome?_eq_none (apart.dealings apart.quiet), ?_⟩
    rw [pending, pending, apart.phase, apart.requests]

/-- The effects among all that is seen. -/
def effects (events : List ClientEvent) : List Effect :=
  events.filterMap fun
    | .saw effect => some effect
    | _ => none

lemma effects_append (events more : List ClientEvent) :
    effects (events ++ more) = effects events ++ effects more :=
  List.filterMap_append

lemma effects_saw (more : List Effect) : effects (more.map .saw) = more := by
  simp [effects, List.filterMap_map]

/-- A start of the event that was launched last, with the addressing for which a relay was opened or
not opened last. -/
def Promised (seen : List Effect) : Demand → Prop
  | .stop => False
  | .start e a => ∃ launch b opener event,
    (Trial.ofHistory seen).launched = some ⟨launch, .start e b⟩ ∧
      (Trial.ofHistory seen).opening = some ⟨opener, .start event a⟩

lemma Promised.of_quiet {seen : List Effect} {demand : Demand} (promised : Promised seen demand)
    (quiet : ∀ effect ∈ more, effect.isTrial = false) : Promised (seen ++ more) demand := by
  obtain ⟨launched, opening⟩ := Trial.foldl_of_quiet quiet (Trial.ofHistory seen)
  cases demand with
  | stop => exact promised
  | start e a => simpa only [Promised, Trial.ofHistory_append, launched, opening] using promised

/-- What a client has before him, where all that was seen is known. -/
def OnCourse (c : Client) (seen : List Effect) : Prop :=
  match c.stage with
  | .awaiting call request next =>
    c.system.pending = [request] ∧ (call = .restart → launches seen ≠ [] ∧
      ∀ again, next = some again → request.demand = .stop ∧ Promised seen again)
  | .demanding call demand next =>
    c.system.pending = [] ∧ (call = .restart → launches seen ≠ [] ∧
      ((∃ again, demand = .stop ∧ next = some again ∧ Promised seen again) ∨
        next = none ∧ Promised seen demand))
  | .free | .looking .. => c.system.pending = []

lemma attend_system (c : Client) (step : System × List Effect) :
    (c.attend step).1.system = step.1 := by
  unfold attend listen
  dsimp only
  split
  · split <;> rfl
  · rfl

lemma effects_attend (c : Client) (step : System × List Effect) :
    effects (c.attend step).2 = step.2 := by
  have silent (c : Client) (more : List Effect) : effects (c.listen more).2 = [] := by
    unfold listen goOn
    split
    · split
      · split <;> rfl
      · rfl
    · rfl
  refine (effects_append ..).trans ?_
  rw [effects_saw]
  exact (congrArg (step.2 ++ ·) (silent _ _)).trans (List.append_nil _)

lemma launches_append_ne_nil {seen : List Effect} (launched : launches seen ≠ [])
    (more : List Effect) : launches (seen ++ more) ≠ [] := by
  rw [launches_append]
  exact List.append_ne_nil_of_left_ne_nil launched _

/-- Whatever others do, a client stays on his course. -/
lemma OnCourse.attend {seen : List Effect} (onCourse : c.OnCourse seen)
    (move : c.system.Move i t more) (left : isLeft i = true) :
    (c.attend (t, more)).1.OnCourse (seen ++ more) := by
  have idle (none : c.system.pending = []) :
      t.pending = [] ∧ ∀ effect ∈ more, effect.isTrial = false := by
    refine ⟨?_, move.quiet (by simp [none])⟩
    rcases replies move left with ⟨-, same⟩ | ⟨request, result, split, -⟩
    · exact same.trans none
    · rw [none] at split
      contradiction
  cases stage : c.stage with
  | free | looking call running =>
    simp only [OnCourse, stage] at onCourse
    simpa only [Client.attend, listen, stage, OnCourse] using (idle onCourse).1
  | demanding call demand next =>
    simp only [OnCourse, stage] at onCourse
    obtain ⟨none, promised⟩ := onCourse
    obtain ⟨later, quiet⟩ := idle none
    simp only [Client.attend, listen, stage, OnCourse]
    refine ⟨later, fun restart => ?_⟩
    obtain ⟨launched, promised⟩ := promised restart
    refine ⟨launches_append_ne_nil launched more, ?_⟩
    rcases promised with ⟨again, stop, following, promised⟩ | ⟨last, promised⟩
    · exact .inl ⟨again, stop, following, promised.of_quiet quiet⟩
    · exact .inr ⟨last, promised.of_quiet quiet⟩
  | awaiting call request next =>
    simp only [OnCourse, stage] at onCourse
    obtain ⟨waits, promised⟩ := onCourse
    have quiet (stop : request.demand = .stop) : ∀ effect ∈ more, effect.isTrial = false :=
      move.quiet (by simpa [waits] using stop)
    rcases replies move left with ⟨silent, same⟩ | ⟨answered, result, split, -, found⟩
    · simp only [Client.attend, listen, stage, silent, OnCourse]
      refine ⟨same.trans waits, fun restart => ?_⟩
      obtain ⟨launched, promised⟩ := promised restart
      refine ⟨launches_append_ne_nil launched more, fun again following => ?_⟩
      obtain ⟨stop, promised⟩ := promised again following
      exact ⟨stop, promised.of_quiet (quiet stop)⟩
    · rw [waits] at split
      obtain ⟨rfl, none⟩ := List.cons.inj split
      simp only [Client.attend, listen, stage, found, OnCourse]
      cases result with
      | error e => exact none.symm
      | ok =>
        cases next with
        | none => exact none.symm
        | some again =>
          refine ⟨none.symm, fun restart => ?_⟩
          obtain ⟨launched, promised⟩ := promised restart
          obtain ⟨stop, promised⟩ := promised again rfl
          exact ⟨launches_append_ne_nil launched more, .inr ⟨rfl, promised.of_quiet (quiet stop)⟩⟩

variable {settings : Settings} {collaborators : Collaborators} {events : List ClientEvent}

/-- A loop with nothing to do does not launch. -/
lemma not_launching_of_idle (idle : s.pending = []) : ¬s.IsOpening ∧ ¬s.HasOpened := by
  cases phase : s.phase with
  | launching l => simp [pending, phase, Phase.request?] at idle
  | _ => simp [IsOpening, HasOpened, phase]

/-- What a restart starts is what the supervisor recalls, and is nothing before the first launch. -/
lemma restarted?_eq {seen : List Effect} (run : System.Run (.fresh settings collaborators) s seen)
    (alive : s.phase ≠ .destroyed) (idle : s.pending = []) :
    (launches seen = [] ∧ Call.restarted? s.shared = none) ∨
      launches seen ≠ [] ∧
        ∃ again, Call.restarted? s.shared = some again ∧ Promised seen again := by
  have recalls := run.recalls alive
  obtain ⟨unopening, unopened⟩ := not_launching_of_idle idle
  have restarted : Call.restarted? s.shared =
      s.shared.lastEvent.map fun e => .start e s.shared.addressing := by
    unfold Call.restarted?
    cases event : s.shared.event with
    | none => rfl
    | some e => rw [run.coherent.presentable.lastEvent e event]; rfl
  rw [restarted]
  rcases recalls.event with ⟨never, lastEvent⟩ | ⟨some, launch, e, b, launched, lastEvent⟩
  · exact .inl ⟨never, by rw [lastEvent]; rfl⟩
  · refine .inr ⟨some, _, by rw [lastEvent]; rfl, ?_⟩
    rcases recalls.addressing with ⟨never, -⟩ | ⟨opener, event, a, opened, addressing⟩
    · exact absurd never some
    · exact ⟨launch, b, opener, event, launched, by rw [opened, addressing.resolve_left unopening]⟩

/-- What one step of a client can do, where the loop takes requests. -/
inductive Moves (c : Client) : Client → List ClientEvent → Prop
  | others {i : Input} {t : System} {more : List Effect} : isLeft i = true →
    c.system.step? i = some (t, more) →
    Moves c (c.attend (t, more)).1 (c.attend (t, more)).2
  | call {call} : c.stage = .free →
    Moves c { c with stage := .looking call c.system.isRunning } []
  | refused {call running e} : c.stage = .looking call running →
    call.plan running c.system.shared = .error e →
    Moves c { c with stage := .free } [.returned call (.error e)]
  | planned {call running plan} : c.stage = .looking call running →
    call.plan running c.system.shared = .ok plan →
    Moves c { c with stage := .demanding call plan.first plan.second } []
  | demand {call demand next} {t : System} : c.stage = .demanding call demand next →
    c.system.step? (.submit ⟨c.nextTicket, demand⟩) = some (t, []) → t.phase = c.system.phase →
    t.requests = c.system.requests ++ [⟨c.nextTicket, demand⟩] →
    Moves c ⟨t, .awaiting call ⟨c.nextTicket, demand⟩ next, c.nextTicket + 1⟩
      [.asked call ⟨c.nextTicket, demand⟩]

lemma step?_moves {i : ClientInput} {more : List ClientEvent}
    (takes : c.system.handles ≠ 0 → c.system.phase.isOver = false)
    (step : c.step? i = some (d, more)) : c.Moves d more := by
  unfold Client.step? at step
  split at step
  · split at step
    case isTrue left =>
      obtain ⟨⟨t, shown⟩, due, attended⟩ := Option.map_eq_some_iff.mp step
      obtain ⟨rfl, rfl⟩ := Prod.mk.inj attended
      exact .others left due
    case isFalse => contradiction
  · split at step
    case h_1 stage =>
      cases step
      exact .call stage
    case h_2 => contradiction
  · split at step
    case h_1 call running stage =>
      split at step
      case h_1 e failed =>
        cases step
        exact .refused stage failed
      case h_2 plan made =>
        cases step
        exact .planned stage made
    case h_2 => contradiction
  · split at step
    case h_1 call demand next stage =>
      obtain ⟨⟨t, shown⟩, due, attended⟩ := Option.map_eq_some_iff.mp step
      have entered := due
      simp only [System.step?, System.submit] at entered
      split at entered
      · contradiction
      case isFalse handles =>
        simp only [takes handles, Bool.false_eq_true, if_false] at entered
        split at entered
        · cases entered
          cases attended
          exact .demand stage due rfl rfl
        · contradiction
    case h_2 => contradiction

lemma Run.onCourse (run : Run (fresh settings collaborators) c events) :
    System.Run (.fresh settings collaborators) c.system (effects events) ∧
      c.system.phase ≠ .destroyed ∧ c.OnCourse (effects events) := by
  induction run with
  | none => exact ⟨.none, nofun, rfl⟩
  | @step c d events more i run step ih =>
    obtain ⟨run, alive, onCourse⟩ := ih
    rw [effects_append]
    cases step?_moves (run.isOver_eq_false alive) step with
    | @others i t more left due =>
      have move := step?_move run.coherent due
      have onward := onCourse.attend move left
      rw [attend_system, effects_attend]
      refine ⟨run.step due, move.alive alive ?_, onward⟩
      rintro rfl
      contradiction
    | call stage | refused stage failed =>
      simp only [OnCourse, stage] at onCourse
      exact ⟨by simpa [effects] using run, alive, onCourse⟩
    | @planned call running plan stage made =>
      simp only [OnCourse, stage] at onCourse
      refine ⟨by simpa [effects] using run, alive, onCourse, ?_⟩
      rintro rfl
      rw [show effects [] = [] from rfl, List.append_nil]
      rcases restarted?_eq run alive onCourse with ⟨-, none⟩ | ⟨launched, again, some, promised⟩
      · simp [Call.plan, none] at made
      · simp only [Call.plan, some, Except.ok.injEq] at made
        subst made
        cases running with
        | true => exact ⟨launched, .inl ⟨again, rfl, rfl, promised⟩⟩
        | false => exact ⟨launched, .inr ⟨rfl, promised⟩⟩
    | @demand call demand next t stage due phase requests =>
      simp only [OnCourse, stage] at onCourse
      obtain ⟨none, promised⟩ := onCourse
      have entered := run.step due
      rw [List.append_nil] at entered
      rw [show effects [.asked call ⟨c.nextTicket, demand⟩] = [] from rfl, List.append_nil]
      refine ⟨entered, phase ▸ alive, ?_, fun restart => ?_⟩
      · obtain ⟨unasked, unqueued⟩ := List.append_eq_nil_iff.mp none
        rw [pending, phase, unasked, requests, unqueued]
        rfl
      · obtain ⟨launched, promised⟩ := promised restart
        refine ⟨launched, fun again following => ?_⟩
        rcases promised with ⟨first, stop, same, promised⟩ | ⟨last, -⟩
        · cases following.symm.trans same
          exact ⟨stop, promised⟩
        · cases following.symm.trans last

/-- Takes one step after another, as long as each of them is due. -/
def steps? (c : Client) : List ClientInput → Option (Client × List ClientEvent)
  | [] => some (c, [])
  | i :: rest =>
    (c.step? i).bind fun (d, more) => (d.steps? rest).map fun (last, later) => (last, more ++ later)

lemma Run.steps {start : Client} {later : List ClientEvent} {inputs : List ClientInput}
    (run : Run start c events) (steps : c.steps? inputs = some (d, later)) :
    Run start d (events ++ later) := by
  induction inputs generalizing c events later with
  | nil =>
    cases steps
    simpa using run
  | cons i rest ih =>
    obtain ⟨⟨u, more⟩, step, steps⟩ := Option.bind_eq_some_iff.mp steps
    obtain ⟨⟨v, last⟩, remaining, same⟩ := Option.map_eq_some_iff.mp steps
    cases same
    rw [← List.append_assoc]
    exact ih (run.step step) remaining

/-- A call that starts a session, from a demand that is made to its answer. -/
def startInputs : List ClientInput :=
  .demand :: .others (.poll 0 (.ok ())) :: List.replicate 11 (.others (.proceed obliging))

/-- A session that ends by itself, and a start that fails for its address. -/
def mishapInputs : List ClientInput :=
  (exitInputs 1 0).map .others ++
    [.call (.start ⟨"other"⟩ (.direct "elsewhere" 0)), .look, .demand,
      .others (.poll 0 (.ok ()))] ++ List.replicate 4 (.others (.proceed obliging))

/-- A race is launched and ends, a start that names no address fails, and the race is restarted. -/
lemma exists_mishap :
    ∃ c d events, Run (fresh .standard ⟨false, false⟩) c events ∧
      c.step? .demand =
        some (d, [.asked .restart ⟨2, .start ⟨"race"⟩ (.direct "elsewhere" 0)⟩]) ∧
      Trial.ofHistory (effects events) =
        ⟨⟨some ⟨1, .start ⟨"other"⟩ (.direct "elsewhere" 0)⟩,
          some ⟨0, .start ⟨"race"⟩ (.direct ":9000" 9001)⟩⟩,
          some ⟨1, .start ⟨"other"⟩ (.direct "elsewhere" 0)⟩⟩ := by
  obtain ⟨⟨c, events⟩, steps, ⟨d, asked⟩, trial⟩ :
      ∃ out ∈ (fresh .standard ⟨false, false⟩).steps?
        ([.call (.start ⟨"race"⟩ (.direct ":9000" 9001)), .look] ++ startInputs ++ mishapInputs ++
          [.call .restart, .look]),
        (∃ d, out.1.step? .demand =
          some (d, [.asked .restart ⟨2, .start ⟨"race"⟩ (.direct "elsewhere" 0)⟩])) ∧
        Trial.ofHistory (effects out.2) =
          ⟨⟨some ⟨1, .start ⟨"other"⟩ (.direct "elsewhere" 0)⟩,
            some ⟨0, .start ⟨"race"⟩ (.direct ":9000" 9001)⟩⟩,
            some ⟨1, .start ⟨"other"⟩ (.direct "elsewhere" 0)⟩⟩ :=
    ⟨_, rfl, ⟨_, rfl⟩, rfl⟩
  exact ⟨c, d, events, Run.none.steps steps, asked, trial⟩

/-- What the restarts of a client go by, after all that was seen. -/
structure Remembers (c : Client) (seen : List Effect) : Prop where
  /-- The event is that of the last launch, and the addressing that of the last launch that has come
  to its relay, be it the same one or one that has failed since. -/
  again : ∀ {i more ticket e a} {d : Client}, c.step? i = some (d, more) →
    .asked .restart ⟨ticket, .start e a⟩ ∈ more →
    ∃ launch b opener event, (Trial.ofHistory seen).launched = some ⟨launch, .start e b⟩ ∧
      (Trial.ofHistory seen).opening = some ⟨opener, .start event a⟩
  returns : ∀ {i more result} {d : Client}, c.step? i = some (d, more) →
    .returned .restart result ∈ more →
    (result = .error .nothingToRestart ↔ launches seen = [])
  /-- As long as nothing has been launched a restart ends with the look at the supervisor. -/
  look : ∀ {running}, c.stage = .looking .restart running → launches seen = [] →
    c.step? .look =
      some ({ c with stage := .free }, [.returned .restart (.error .nothingToRestart)])

/-- A call returns what the last of its demands has been answered. -/
lemma eq_of_following {next : Option Demand} {result last : Except SupervisorError Unit}
    (returned : Call.following next result = .inr last) : last = result := by
  cases result with
  | error e => exact (Sum.inr.inj returned).symm
  | ok =>
    cases next with
    | none => exact (Sum.inr.inj returned).symm
    | some demand => contradiction

/-- While others take their steps a client asks for nothing, and his call returns only with an
answer that he has waited for. -/
lemma mem_attend {event : ClientEvent} (seen : event ∈ (c.attend (t, more)).2) :
    (∃ effect, event = .saw effect) ∨
      ∃ call request next result, c.stage = .awaiting call request next ∧
        more.findSome? (result? request.ticket) = some result ∧ event = .returned call result := by
  have heard : event ∈ more.map .saw ∨ event ∈ ({ c with system := t }.listen more).2 :=
    List.mem_append.mp seen
  rcases heard with shown | returned
  · obtain ⟨effect, -, rfl⟩ := List.mem_map.mp shown
    exact .inl ⟨effect, rfl⟩
  · unfold listen goOn at returned
    split at returned
    case h_1 call request next stage =>
      split at returned
      case h_1 result answered =>
        split at returned
        case h_1 => contradiction
        case h_2 last following =>
          obtain rfl := eq_of_following following
          exact .inr ⟨call, request, next, last, stage, answered, List.mem_singleton.mp returned⟩
      case h_2 => contradiction
    case h_2 => contradiction

theorem Run.remembers (run : Run (fresh settings collaborators) c events) :
    c.Remembers (effects events) := by
  obtain ⟨run, alive, onCourse⟩ := run.onCourse
  have takes := run.isOver_eq_false alive
  constructor
  · intro i more ticket e a d step asked
    cases step?_moves takes step with
    | others => simpa using mem_attend asked
    | call | refused | planned => simp at asked
    | demand stage =>
      cases List.mem_singleton.mp asked
      simp only [OnCourse, stage] at onCourse
      rcases (onCourse.2 trivial).2 with ⟨_, stop, -⟩ | ⟨-, promised⟩
      · contradiction
      · exact promised
  · intro i more result d step returned
    cases step?_moves takes step with
    | others left due =>
      rcases mem_attend returned with ⟨_, same⟩ | ⟨call, request, next, _, stage, found, same⟩
      · contradiction
      · cases same
        simp only [OnCourse, stage] at onCourse
        rcases replies (step?_move run.coherent due) left with
          ⟨silent, -⟩ | ⟨answered, answer, split, reply, heard⟩
        · rw [silent] at found
          contradiction
        · rw [onCourse.1] at split
          obtain ⟨rfl, -⟩ := List.cons.inj split
          obtain rfl := Option.some.inj (found.symm.trans heard)
          exact iff_of_false reply.2 (onCourse.2 trivial).1
    | call | planned | demand => simp at returned
    | refused stage failed =>
      cases List.mem_singleton.mp returned
      simp only [OnCourse, stage] at onCourse
      rcases restarted?_eq run alive onCourse with ⟨never, none⟩ | ⟨-, again, some, -⟩
      · simp only [Call.plan, none, Except.error.injEq] at failed
        exact iff_of_true (by rw [failed]) never
      · simp [Call.plan, some] at failed
  · intro running stage never
    simp only [OnCourse, stage] at onCourse
    rcases restarted?_eq run alive onCourse with ⟨-, none⟩ | ⟨some, -⟩
    · simp [Client.step?, stage, Call.plan, none]
    · exact absurd never some

theorem remembers_mishap :
    ∃ c events, Run (fresh .standard ⟨false, false⟩) c events ∧ c.Remembers (effects events) ∧
      ∃ launch b opener event,
        (Trial.ofHistory (effects events)).launched = some ⟨launch, .start ⟨"race"⟩ b⟩ ∧
          (Trial.ofHistory (effects events)).opening =
            some ⟨opener, .start event (.direct "elsewhere" 0)⟩ := by
  obtain ⟨c, d, events, run, asked, trial⟩ := exists_mishap
  have remembers := run.remembers
  exact ⟨c, events, run, remembers, remembers.again asked (List.mem_singleton_self _)⟩

/-- A restart does not always start what was launched last. -/
theorem not_forall_launched :
    ¬∀ c d events i more ticket e a, Run (fresh .standard ⟨false, false⟩) c events →
      c.step? i = some (d, more) → .asked .restart ⟨ticket, .start e a⟩ ∈ more →
      ∃ launch, (Ledger.ofHistory (effects events)).launched = some ⟨launch, .start e a⟩ := by
  intro claimed
  obtain ⟨c, d, events, run, asked, trial⟩ := exists_mishap
  obtain ⟨launch, launched⟩ := claimed c d events _ _ _ _ _ run asked (List.mem_singleton_self _)
  rw [← Trial.toLedger_ofHistory, trial] at launched
  simp [Addressing.direct] at launched

end Client
end RaceControl
