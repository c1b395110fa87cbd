import Mathlib.Data.List.Nodup
import Mathlib.Data.List.Perm.Basic
import RaceControl.Proofs.Supervisor.Lifecycle
import RaceControl.Proofs.Supervisor.Passages
import RaceControl.Proofs.Supervisor.Tasks

/-!
The wrapper is started beside the control loop. The loop hands over the start of a session while it
launches it, so before it parts with it; when the start is made is up to the task, and the wrapper
can be stopped before.
-/
namespace RaceControl

def Effect.wrapperStart? : Effect → Option WrapperStart
  | .wrapperStarted start => some start
  | _ => none

/-- The starts of the wrapper that have been made. -/
def wrapperCalls (seen : List Effect) : List WrapperStart := seen.filterMap Effect.wrapperStart?

@[simp] lemma wrapperCalls_append (seen more : List Effect) :
    wrapperCalls (seen ++ more) = wrapperCalls seen ++ wrapperCalls more :=
  List.filterMap_append

lemma wrapperCalls_eq_nil {more : List Effect}
    (attached : ∀ effect ∈ more, effect.isDetached = false) : wrapperCalls more = [] := by
  refine List.filterMap_eq_nil_iff.mpr fun effect shown => ?_
  have := attached effect shown
  cases effect <;> first | rfl | contradiction

lemma shown_of_mem_wrapperCalls {seen : List Effect} {w : WrapperStart}
    (made : w ∈ wrapperCalls seen) : .wrapperStarted w ∈ seen := by
  obtain ⟨effect, shown, told⟩ := List.mem_filterMap.mp made
  cases effect with
  | wrapperStarted start =>
    obtain rfl := Option.some.inj told
    exact shown
  | _ => contradiction

/-- The starts that belong to one session. -/
def startsOf (generation : Nat) (starts : List WrapperStart) : List WrapperStart :=
  starts.filter (·.generation == generation)

/-- Whether an effect belongs to the end of a session: the wrapper is stopped, or the session has
been torn down. -/
@[simp] def Effect.isParting : Effect → Bool
  | .wrapperStopped | .tornDown _ => true
  | _ => false

namespace System
variable {s t u : System} {seen more : List Effect} {i : Input} {passed later : List Transit}

/-- A start that is made is made once, whether it fails or not. -/
lemma wrapperCalls_wrapperStarted (w : WrapperStart) (result : Except String Unit) :
    wrapperCalls (.wrapperStarted w :: wrapperComplaint result) = [w] := by
  cases result <;> rfl

/-- The starts of the wrapper that a step hands over. -/
def Transit.commissions (transit : Transit) : List WrapperStart :=
  transit.before.commissions transit.input

/-- The loop stops the wrapper for a session, or has torn the session down. -/
def Transit.Parts (transit : Transit) (generation : Nat) : Prop :=
  .wrapperStopped ∈ transit.shown ∧
      transit.before.session.map (·.generation) = some generation ∨
    .tornDown generation ∈ transit.shown

/-- The loop has done for the wrapper of a session what it does only once. -/
def Transit.Concludes (transit : Transit) (generation : Nat) : Prop :=
  (∃ w ∈ transit.commissions, w.generation = generation) ∨ transit.Parts generation

/-- The starts of the wrapper that have been handed over. -/
def handedOver (passed : List Transit) : List WrapperStart := passed.flatMap (·.commissions)

/-- A step makes what waits or is handed over, once, or leaves it waiting. -/
lemma step?_commissions (coherent : s.Coherent) (step : s.step? i = some (t, more)) :
    (wrapperCalls more ++ t.wrapperStarts).Perm (s.wrapperStarts ++ s.commissions i) := by
  rcases step?_tasks coherent step with detached | ⟨-, spares⟩
  · have foreign : s.commissions i = [] := by cases detached <;> rfl
    cases detached with
    | @runWrapper number result start found =>
      obtain ⟨known, rfl⟩ := List.getElem?_eq_some_iff.mp found
      rw [wrapperCalls_wrapperStarted, foreign, List.append_nil]
      exact List.getElem_cons_eraseIdx_perm known
    | _ =>
      rw [foreign, List.append_nil]
      exact .refl _
  · rw [wrapperCalls_eq_nil spares.shown, spares.wrapperStarts]
    exact .refl _

variable {settings : Settings} {collaborators : Collaborators}

/-- Over a passage nothing that is handed over gets lost, and nothing is made twice. -/
lemma Passage.perm_handedOver {start : System}
    (run : Run (fresh settings collaborators) start seen) (passage : Passage start s passed) :
    (wrapperCalls (shownIn passed) ++ s.wrapperStarts).Perm
      (start.wrapperStarts ++ handedOver passed) := by
  induction passage with
  | none =>
    rw [handedOver, List.flatMap_nil, List.append_nil]
    exact .refl _
  | @step s t passed i more passage step ih =>
    have one := step?_commissions (passage.run run).coherent step
    have grown : handedOver (passed ++ [⟨s, i, t, more⟩]) =
        handedOver passed ++ s.commissions i := by
      simp [handedOver, Transit.commissions]
    rw [shownIn_append, shownIn_singleton, wrapperCalls_append, grown, List.append_assoc,
      ← List.append_assoc start.wrapperStarts]
    refine (one.append_left _).trans ?_
    rw [← List.append_assoc]
    exact ih.append_right _

/-- The loop is at a session whose server it has started: it launches it or tears it down. -/
inductive InHand (s : System) : Session → Prop
  | started {l dir options n x} : s.phase = .launching l → l.stage = .adopt dir options n x →
    InHand s x
  | launched {l dir options x} : s.phase = .launching l → l.stage = .startWrapper dir options →
    s.session = some x → InHand s x
  | leaving {stage next x} : s.phase = .tearingDown stage next → s.session = some x → InHand s x

/-- The generation of the next session for which the loop can hand over a start of the wrapper. -/
def horizon (s : System) : Nat :=
  match s.phase with
  | .launching l =>
    match l.stage with
    | .adopt _ _ _ x => x.generation
    | .startWrapper .. => (s.session.map (·.generation)).getD s.nextGeneration
    | _ => s.nextGeneration
  | _ => s.nextGeneration

/-- The session at hand has a generation that is used up. -/
lemma Run.inHand_lt {x : Session} (run : Run (fresh settings collaborators) s seen)
    (hand : s.InHand x) : x.generation < s.nextGeneration := by
  obtain ⟨-, part, ⟨whole, told⟩, underway⟩ := run.underway
  have begun : ∃ spec, .serverStarted x.generation x.pid spec ∈ part := by
    cases hand with
    | started phase stage =>
      simp only [Underway, phase, LaunchPart, stage] at underway
      obtain ⟨spec, rfl⟩ := underway
      exact ⟨spec, by simp⟩
    | launched phase stage session =>
      simp only [Underway, phase, LaunchPart, stage] at underway
      obtain ⟨n, y, spec, current, -, rfl⟩ := underway
      obtain rfl := Option.some.inj (current.symm.trans session)
      exact ⟨spec, by simp [Chapter.launch]⟩
    | leaving phase session =>
      simp only [Underway, phase] at underway
      obtain ⟨n, y, spec, tail, current, -, rfl⟩ := underway
      obtain rfl := Option.some.inj (current.symm.trans session)
      exact ⟨spec, by simp [Chapter.launch]⟩
  obtain ⟨spec, begun⟩ := begun
  have member : .serverStarted x.generation x.pid spec ∈ milestones seen :=
    told ▸ List.mem_append_right _ begun
  exact run.increasing.1 _ (List.mem_filterMap.mpr ⟨_, List.mem_of_mem_filter member, rfl⟩)

lemma Run.horizon_le (run : Run (fresh settings collaborators) s seen) :
    s.horizon ≤ s.nextGeneration := by
  unfold horizon
  split
  case h_1 l phase =>
    split
    case h_1 stage => exact Nat.le_of_lt (run.inHand_lt (.started phase stage))
    case h_2 stage =>
      cases session : s.session with
      | none => exact Nat.le_refl _
      | some x => exact Nat.le_of_lt (run.inHand_lt (.launched phase stage session))
    case h_3 => exact Nat.le_refl _
  case h_2 => exact Nat.le_refl _

lemma horizon_finishStop (purpose : Purpose) :
    (u.finishStop purpose).1.horizon = u.nextGeneration := by
  cases purpose <;> rfl

lemma horizon_resume (next : Resumption) : (u.resume next).1.horizon = u.nextGeneration := by
  cases next with
  | wait | keepStopping => rfl
  | finishStop purpose => exact horizon_finishStop purpose

/-- The loop does not come back to the wrapper of a session. -/
lemma Turn.horizon_le (turn : s.Turn t more) (newer : s.horizon ≤ s.nextGeneration) :
    s.horizon ≤ t.horizon := by
  have later (last : t.horizon = t.nextGeneration) : s.horizon ≤ t.horizon := by
    rw [last]
    rcases turn.started with ⟨-, grown⟩ | ⟨-, grown⟩
    · exact Nat.le_trans newer grown
    · exact Nat.le_trans newer (grown ▸ Nat.le_succ _)
  cases turn with
  | startServer => exact newer
  | adopt phase stage =>
    refine Nat.le_of_eq ?_
    simp only [horizon, phase, stage, Option.map_some, Option.getD_some]
  | auxiliary phase start => cases start <;> exact later rfl
  | @beginVacant u purpose before phase quiet session occasion =>
    obtain ⟨_, _, finished⟩ := finishStop_fst u purpose
    exact later (by rw [horizon_finishStop, finished])
  | staleExit attends =>
    cases attends with
    | waiting phase | stopping phase => exact later (by simp only [horizon, phase])
  | @tearDown x next =>
    let rest : System := { s with machine := .idle, published := .idle, session := none }
    obtain ⟨_, _, resumed⟩ := resume_fst rest next
    exact later ((horizon_resume next).trans (congrArg System.nextGeneration resumed).symm)
  | _ => exact later rfl

/-- The loop shows the end of a session only where it tears it down. -/
lemma Turn.parting (turn : s.Turn t more) {effect : Effect} (shown : effect ∈ more)
    (parting : effect.isParting = true) :
    (∃ stage next, s.phase = .tearingDown stage next) ∧
      ∀ g, effect = .tornDown g → s.session.map (·.generation) = some g := by
  have stays (none : ∀ effect ∈ more, effect.isParting = false) :
      (∃ stage next, s.phase = .tearingDown stage next) ∧
        ∀ g, effect = .tornDown g → s.session.map (·.generation) = some g := by
    rw [none effect shown] at parting
    contradiction
  cases turn with
  | fail phase failure => exact stays (by cases failure <;> simp)
  | auxiliary phase start =>
    exact stays fun effect shown => by cases start.outfitting effect shown <;> rfl
  | beginVacant phase quiet session occasion =>
    refine stays (List.forall_mem_append.mpr ⟨?_, forall_finishStop (fun _ _ => rfl) rfl⟩)
    cases occasion <;> simp
  | beginStop now phase quiet session occasion =>
    exact stays (by cases occasion <;> split <;> simp)
  | exit | staleExit =>
    exact stays (List.forall_mem_append.mpr ⟨forall_exitWarning rfl, by simp⟩)
  | kill => exact stays (forall_forceKill rfl fun _ => rfl)
  | stopWrapper phase =>
    refine ⟨⟨_, _, phase⟩, ?_⟩
    rintro g rfl
    split at shown <;> simp at shown
  | killChildren env phase =>
    exact stays (forall_kills rfl (fun _ => rfl) fun _ _ _ => rfl)
  | signal => exact stays (forall_signal rfl)
  | @tearDown x next phase session =>
    refine ⟨⟨_, _, phase⟩, ?_⟩
    rw [session]
    refine List.forall_mem_cons (p := fun effect => ∀ g, effect = .tornDown g →
      some x.generation = some g) |>.mpr ⟨?_, List.forall_mem_cons.mpr ⟨?_, ?_⟩⟩ effect shown
    · rintro g ⟨⟩
    · rintro g ⟨⟩
      rfl
    · exact forall_resume nofun nofun
  | _ => exact stays (by simp)

/-- Where a step hands over a start, the loop has come to the wrapper of the session at hand. -/
lemma mem_commissions {w : WrapperStart} (handed : w ∈ s.commissions i) :
    ∃ l dir options x, s.phase = .launching l ∧ l.stage = .startWrapper dir options ∧
      s.session = some x ∧ w = ⟨x.generation, options.contentManagerWrapperPort, l.event⟩ ∧
      i.isOwn = true := by
  have own : i.isOwn = true := by
    by_contra foreign
    simp [commissions, foreign] at handed
  rw [commissions, if_pos own, Option.mem_toList] at handed
  cases phase : s.phase with
  | launching l =>
    cases stage : l.stage with
    | startWrapper dir options =>
      simp only [commission?, phase, stage] at handed
      split at handed
      · obtain ⟨x, session, rfl⟩ := Option.map_eq_some_iff.mp handed
        exact ⟨l, dir, options, x, rfl, stage, session, rfl, own⟩
      · contradiction
    | _ => simp [commission?, phase, stage] at handed
  | _ => simp [commission?, phase] at handed

/-- With the step of the wrapper a launch has done with it. -/
lemma step?_startWrapper {l : Launch} {dir : Path} {options : ServerOptions}
    (phase : s.phase = .launching l) (stage : l.stage = .startWrapper dir options)
    (own : i.isOwn = true) (step : s.step? i = some (t, more)) :
    t.horizon = s.nextGeneration := by
  cases i with
  | proceed env =>
    simp only [step?, proceed, phase, stepLaunch, stage] at step
    cases step
    rw [requestWrapper_eq]
    rfl
  | poll => simp [step?, poll, phase] at step
  | _ => contradiction

/-- The end of a session is shown only where it is torn down. -/
lemma step?_parting (coherent : s.Coherent) (step : s.step? i = some (t, more)) {effect : Effect}
    (shown : effect ∈ more) (parting : effect.isParting = true) :
    (∃ stage next, s.phase = .tearingDown stage next) ∧
      ∀ g, effect = .tornDown g → s.session.map (·.generation) = some g := by
  rcases step?_cases coherent step with turn | beside | ⟨-, -, destroyed⟩
  · exact turn.parting shown parting
  · cases beside.aside effect shown <;> contradiction
  · cases destroyed
    obtain ⟨ticket, -, rfl⟩ := List.mem_map.mp shown
    contradiction

/-- What a step does for the wrapper of a session, it does once and for sessions in their order. -/
structure Advances (transit : Transit) : Prop where
  kept : transit.before.horizon ≤ transit.after.horizon
  handed : ∀ w ∈ transit.commissions,
    transit.before.horizon = w.generation ∧ w.generation < transit.after.horizon
  parted : ∀ g, transit.Parts g → g < transit.before.horizon

lemma Run.advances (run : Run (fresh settings collaborators) s seen)
    (step : s.step? i = some (t, more)) : Advances ⟨s, i, t, more⟩ := by
  have coherent := run.coherent
  constructor
  · rcases step?_cases coherent step with turn | beside | ⟨-, -, destroyed⟩
    · exact turn.horizon_le run.horizon_le
    · refine Nat.le_of_eq ?_
      simp only [horizon, beside.phase, beside.session, beside.nextGeneration]
    · cases destroyed
      exact run.horizon_le
  · intro w (handed : w ∈ s.commissions i)
    obtain ⟨l, dir, options, x, phase, stage, session, rfl, own⟩ := mem_commissions handed
    have here : s.horizon = x.generation := by
      simp only [horizon, phase, stage, session, Option.map_some, Option.getD_some]
    have passed : t.horizon = s.nextGeneration := step?_startWrapper phase stage own step
    exact ⟨here, passed.symm ▸ run.inHand_lt (.launched phase stage session)⟩
  · intro g parts
    have leaving : (∃ stage next, s.phase = .tearingDown stage next) ∧
        s.session.map (·.generation) = some g := by
      rcases parts with ⟨stopped, session⟩ | torn
      · exact ⟨(step?_parting coherent step stopped rfl).1, session⟩
      · obtain ⟨phase, session⟩ := step?_parting coherent step torn rfl
        exact ⟨phase, session g rfl⟩
    obtain ⟨⟨stage, next, phase⟩, session⟩ := leaving
    obtain ⟨x, current, rfl⟩ := Option.map_eq_some_iff.mp session
    have here : s.horizon = s.nextGeneration := by simp only [horizon, phase]
    exact here.symm ▸ run.inHand_lt (.leaving phase current)

/-- The loop hands over starts of the wrapper for one session after another, one at most for each,
and none for a session that it has parted with. -/
def InOrder (passed : List Transit) : Prop :=
  passed.Pairwise fun earlier later =>
    ∀ g, earlier.Concludes g → ∀ w ∈ later.commissions, g < w.generation

lemma Passage.inOrder (passage : Passage (fresh settings collaborators) s passed) :
    InOrder passed ∧ ∀ transit ∈ passed, ∀ g, transit.Concludes g → g < s.horizon := by
  induction passage with
  | none => exact ⟨.nil, by simp⟩
  | @step s t passed i more passage step ih =>
    obtain ⟨ordered, below⟩ := ih
    have advances := (passage.run .none).advances step
    refine ⟨List.pairwise_append.mpr ⟨ordered, List.pairwise_singleton .., ?_⟩,
      List.forall_mem_append.mpr ⟨?_, List.forall_mem_singleton.mpr ?_⟩⟩
    · intro earlier member last new g concludes w handed
      obtain rfl := List.mem_singleton.mp new
      exact (advances.handed w handed).1 ▸ below earlier member g concludes
    · exact fun earlier member g concludes =>
        Nat.lt_of_lt_of_le (below earlier member g concludes) advances.kept
    · rintro g (⟨w, handed, rfl⟩ | parts)
      · exact (advances.handed w handed).2
      · exact Nat.lt_of_lt_of_le (advances.parted g parts) advances.kept

lemma InOrder.pairwise (inOrder : InOrder passed) :
    ((handedOver passed).map (·.generation)).Pairwise (· < ·) := by
  refine List.pairwise_map.mpr (List.pairwise_flatMap.mpr ⟨fun transit _ => ?_, ?_⟩)
  · rw [Transit.commissions, commissions]
    split
    · cases transit.before.commission? <;> simp
    · exact .nil
  · exact inOrder.imp fun concludes v handed w => concludes _ (.inl ⟨v, handed, rfl⟩) w

/-- What becomes of the starts of the wrapper in a part of a run that has `passed` and in one that
comes `later`. -/
structure Commissioned (start : System) (passed : List Transit) (s : System)
    (later : List Transit) : Prop where
  /-- Each start that the loop hands over is made once or still waits, and there are no others. -/
  balance : (wrapperCalls (shownIn passed) ++ start.wrapperStarts).Perm (handedOver passed)
  /-- A session has one start at most. -/
  once : ((wrapperCalls (shownIn passed) ++ start.wrapperStarts).map (·.generation)).Nodup
  /-- It is handed over before the wrapper is stopped for the session and the session is torn
  down. -/
  inOrder : InOrder passed
  /-- From then on no start is made for the session but one that has been waiting. -/
  late : ∀ g, (∃ transit ∈ passed, transit.Parts g) →
    (startsOf g (wrapperCalls (shownIn later)) ++ startsOf g s.wrapperStarts).Perm
      (startsOf g start.wrapperStarts)
  /-- One that waits can be made wherever the loop stands. -/
  free : ∀ w ∈ start.wrapperStarts, ∀ result, ∃ number t,
    start.step? (.runWrapper number result) = some (t, .wrapperStarted w :: wrapperComplaint result)

/-- A start of the wrapper is handed over in time. The task that has it makes it at any time. -/
theorem Passage.commissioned {start : System}
    (first : Passage (fresh settings collaborators) start passed)
    (second : Passage start s later) : Commissioned start passed s later := by
  have balance := first.perm_handedOver .none
  have inOrder := first.inOrder.1
  refine ⟨balance, ?_, inOrder, ?_, ?_⟩
  · exact (balance.map _).nodup_iff.mpr (inOrder.pairwise.imp Nat.ne_of_lt)
  · rintro g ⟨transit, member, parts⟩
    have onwards := (List.pairwise_append.mp (first.trans second).inOrder.1).2.2
    have none : startsOf g (handedOver later) = [] := by
      refine List.filter_eq_nil_iff.mpr fun w handed => ?_
      obtain ⟨last, new, handed⟩ := List.mem_flatMap.mp handed
      have newer := onwards transit member last new g (.inr parts) w handed
      simpa using Nat.ne_of_gt newer
    have perm := (second.perm_handedOver (first.run .none)).filter (·.generation == g)
    rw [List.filter_append, List.filter_append] at perm
    change List.filter _ (handedOver later) = [] at none
    rwa [none, List.append_nil] at perm
  · intro w waits result
    obtain ⟨number, found⟩ := List.getElem?_of_mem waits
    exact ⟨number, _, by rw [step?, runWrapper, found, Option.map_some]⟩

/-- Surroundings in which the wrapper is to be started. -/
def equipped : Surroundings := { obliging with serverOptions := .ok ⟨"", 0, true, 8081⟩ }

/-- The launch of a session with a wrapper. -/
def equippedLaunch : List Input :=
  [.submit ⟨1, .start ⟨"race"⟩ (.direct ":9000" 9001)⟩, .poll 0 (.ok ())] ++
    List.replicate 11 (.proceed equipped)

/-- A session with a wrapper, whose server ends at once. -/
def brief : List Input := equippedLaunch ++ exitInputs 1 0

/-- Its start waits until the session has been torn down, and is made then. -/
lemma brief_passages :
    ∃ start passed s later,
      Passage (fresh .standard ⟨true, false⟩) start passed ∧ Passage start s later ∧
      (∃ transit ∈ passed, transit.Parts 1) ∧ start.wrapperStarts = [⟨1, 8081, ⟨"race"⟩⟩] ∧
      s.wrapperStarts = [] ∧ wrapperCalls (shownIn later) = [⟨1, 8081, ⟨"race"⟩⟩] := by
  obtain ⟨⟨start, seen⟩, steps, torn, waits, ⟨s, more⟩, made, gone, call⟩ : ∃ start ∈
      (fresh .standard ⟨true, false⟩).steps? brief,
      boundaries start.2 = [.launched 1, .tornDown 1] ∧
      start.1.wrapperStarts = [⟨1, 8081, ⟨"race"⟩⟩] ∧
      ∃ out ∈ start.1.steps? [.runWrapper 0 (.ok ())], out.1.wrapperStarts = [] ∧
        wrapperCalls out.2 = [⟨1, 8081, ⟨"race"⟩⟩] := by
    exact ⟨_, rfl, rfl, rfl, _, rfl, rfl, rfl⟩
  obtain ⟨passed, first, rfl⟩ := Passage.of_steps steps
  obtain ⟨later, second, rfl⟩ := Passage.of_steps made
  have shown : .tornDown 1 ∈ shownIn passed :=
    List.mem_of_mem_filter (torn ▸ by simp : .tornDown 1 ∈ boundaries (shownIn passed))
  obtain ⟨transit, member, shown⟩ := List.mem_flatMap.mp shown
  exact ⟨start, passed, s, later, first, second, ⟨transit, member, .inr shown⟩, waits, gone, call⟩

theorem commissioned_brief :
    ∃ start passed s later,
      Passage (fresh .standard ⟨true, false⟩) start passed ∧ Passage start s later ∧
      Commissioned start passed s later ∧ (∃ transit ∈ passed, transit.Parts 1) ∧
      start.wrapperStarts = [⟨1, 8081, ⟨"race"⟩⟩] ∧
      wrapperCalls (shownIn later) = [⟨1, 8081, ⟨"race"⟩⟩] := by
  obtain ⟨start, passed, s, later, first, second, parts, waits, -, call⟩ := brief_passages
  exact ⟨start, passed, s, later, first, second, first.commissioned second, parts, waits, call⟩

/-- A session with a wrapper that has been started; the last handle is dropped while it runs, and
its server does not end in time. -/
def stranding : List Input :=
  equippedLaunch ++
    [.runWrapper 0 (.ok ()), .dropHandle, .poll 1000 (.ok ()), .poll 1050 (.ok ())]

/-- No start of the wrapper is made for a session that the loop has parted with. -/
def Punctual (passed : List Transit) : Prop :=
  passed.Pairwise fun earlier later =>
    ∀ w, .wrapperStarted w ∈ later.shown → ¬earlier.Parts w.generation

/-- So the stop of the wrapper does not always come after its start, nor is there always one before
the loop ends. -/
theorem not_forall_punctual :
    (¬∀ settings collaborators s passed,
      Passage (fresh settings collaborators) s passed → Punctual passed) ∧
    ¬∀ settings collaborators s passed, Passage (fresh settings collaborators) s passed →
      s.phase = .finished → wrapperCalls (shownIn passed) ≠ [] →
        .wrapperStopped ∈ shownIn passed := by
  constructor
  · intro all
    obtain ⟨start, passed, s, later, first, second, ⟨transit, member, parts⟩, -, -, call⟩ :=
      brief_passages
    have punctual := all _ _ s _ (first.trans second)
    have made : .wrapperStarted ⟨1, 8081, ⟨"race"⟩⟩ ∈ shownIn later :=
      shown_of_mem_wrapperCalls (by simp [call])
    obtain ⟨last, new, shown⟩ := List.mem_flatMap.mp made
    exact (List.pairwise_append.mp punctual).2.2 transit member last new _ shown parts
  · intro all
    obtain ⟨⟨s, seen⟩, steps, finished, call, quiet⟩ : ∃ out ∈
        (fresh { Settings.standard with stopGrace := 10000, stopTimeout := 50 }
          ⟨true, false⟩).steps? stranding, out.1.phase = .finished ∧
        wrapperCalls out.2 = [⟨1, 8081, ⟨"race"⟩⟩] ∧ out.2.filter Effect.isParting = [] := by
      exact ⟨_, rfl, rfl, rfl, rfl⟩
    obtain ⟨passed, passage, rfl⟩ := Passage.of_steps steps
    have stopped := all _ _ s passed passage finished (by simp [call])
    exact List.filter_eq_nil_iff.mp quiet _ stopped rfl

end System
end RaceControl
