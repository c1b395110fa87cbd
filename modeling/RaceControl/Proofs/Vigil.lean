import Mathlib.Data.List.Basic
import RaceControl.Supervisor.Step
import RaceControl.Vigil

/-!
The waiter of a server process reports once. Whatever happens to the process and in whatever order
the waiter looks at it, what is reported is the one completion of its wait, and the process is asked
to end at most once, after a cancellation and while it still has its id.
-/
namespace RaceControl.Vigil
variable {pid : Nat} {v w : Vigil} {event : VigilEvent} {effect : VigilEffect}
  {seen more : List VigilEffect}

/-! ## What one step does -/

/-- A wait that completes with a result leaves the process in a state. -/
inductive Completes (v : Vigil) : WaitResult → ProcessState → Prop
  | failed (cause : OsError) : Completes v (.failed cause) v.process
  | ended {status : ExitStatus} : v.process = .ended status ∨ v.process = .reaped status →
    Completes v (.ended status) (.reaped status)

lemma wait?_completes {fault : Option OsError} {result : WaitResult} {process : ProcessState}
    (completed : v.wait? fault = some (result, process)) : v.Completes result process := by
  unfold wait? at completed
  split at completed <;> cases completed
  case h_1 reaped => exact .ended (.inr reaped)
  case h_2 => exact .failed _
  case h_3 ended => exact .ended (.inl ended)

/-- What happens beside the waiter, and the two things that the waiter does. -/
inductive Passes (v : Vigil) : Vigil → List VigilEffect → Prop
  | ends (status : ExitStatus) : v.process = .running →
    Passes v { v with process := .ended status } [.ended status]
  | cancel : Passes v v.cancel [.cancelled]
  | request {warnings : List VigilEffect} : v.isCancelled → v.waiter = .racing →
    (∀ effect ∈ warnings, ∃ reason, effect = .warned reason) →
    Passes v { v with waiter := .draining } (.requested v.id? :: warnings)
  | report {result : WaitResult} {process : ProcessState} : v.Completes result process →
    v.waiter ≠ .reported →
    Passes v { v with process, waiter := .reported } [.waited result, .reported result]

lemma step?_passes (step : v.step? event = some (w, more)) : v.Passes w more := by
  cases event with
  | processEnded status =>
    simp only [step?] at step
    split at step <;> cases step
    case h_1 running => exact .ends status running
  | cancelled =>
    cases step
    exact .cancel
  | waitPolled fault =>
    obtain ⟨⟨result, process⟩, completed, rest⟩ := Option.bind_eq_some_iff.mp step
    obtain ⟨⟨waiter, actions⟩, seen, same⟩ := Option.bind_eq_some_iff.mp rest
    cases same
    cases current : v.waiter <;> rw [current] at seen <;> cases seen
    all_goals exact .report (wait?_completes completed) (by simp [current])
  | cancellationPolled request =>
    simp only [step?] at step
    split at step
    case isFalse => contradiction
    case isTrue cancelled =>
      obtain ⟨⟨waiter, actions⟩, seen, same⟩ := Option.bind_eq_some_iff.mp step
      cases same
      cases current : v.waiter <;> rw [current] at seen <;>
        cases outcome : v.requestResult request <;> rw [outcome] at seen <;> cases seen
      · exact .request cancelled current (by simp [Vigil.effect])
      · exact .request cancelled current (by simp)

/-! ## Runs -/

/-- A process from its start on, with all that has happened. -/
inductive Run (pid : Nat) : Vigil → List VigilEffect → Prop
  | begin : Run pid (.begin pid) []
  | step {v w : Vigil} {event : VigilEvent} {seen more : List VigilEffect} : Run pid v seen →
    v.step? event = some (w, more) → Run pid w (seen ++ more)

/-- What holds at the start and after every step holds throughout. -/
lemma Run.invariant {p : Vigil → List VigilEffect → Prop} (run : Run pid v seen)
    (start : p (.begin pid) [])
    (step : ∀ {v w seen more}, Run pid v seen → p v seen → v.Passes w more → p w (seen ++ more)) :
    p v seen := by
  induction run with
  | begin => exact start
  | step run moved ih => exact step run ih (step?_passes moved)

/-- Whatever has been shown was shown by a step, with all that had happened until then. -/
lemma Run.step_of_mem (run : Run pid v seen) (shown : effect ∈ seen) :
    ∃ u w front more back, Run pid u front ∧ u.Passes w more ∧ effect ∈ more ∧
      seen = front ++ more ++ back := by
  induction run with
  | begin => simp at shown
  | @step _ _ _ seen more run moved ih =>
    rcases List.mem_append.mp shown with before | now
    · obtain ⟨u, w, front, then_, back, start, passes, member, rfl⟩ := ih before
      exact ⟨u, w, front, then_, back ++ more, start, passes, member, by simp⟩
    · exact ⟨_, _, seen, more, [], run, step?_passes moved, now, by simp⟩

def request? : VigilEffect → Option (Option Nat)
  | .requested target => some target
  | _ => none

def completion? : VigilEffect → Option WaitResult
  | .waited result => some result
  | _ => none

def report? : VigilEffect → Option WaitResult
  | .reported result => some result
  | _ => none

/-- The processes that have been asked to end. -/
def requests (seen : List VigilEffect) : List (Option Nat) := seen.filterMap request?

/-- What the waits have completed with. -/
def completions (seen : List VigilEffect) : List WaitResult := seen.filterMap completion?

def reports (seen : List VigilEffect) : List WaitResult := seen.filterMap report?

/-- How the requests, the completed waits and the reports stand to the waiter and its process. -/
inductive Told (pid : Nat) (v : Vigil) :
    List (Option Nat) → List WaitResult → List WaitResult → Prop
  | racing : v.waiter = .racing → v.id? = some pid → Told pid v [] [] []
  | draining : v.waiter = .draining → v.id? = some pid → Told pid v [some pid] [] []
  | reported {asked : List (Option Nat)} {result : WaitResult} : v.waiter = .reported →
    asked = [] ∨ asked = [some pid] → Told pid v asked [result] [result]

/-- The waiter and its process as all that has happened explains them. -/
structure Explained (pid : Nat) (v : Vigil) (seen : List VigilEffect) : Prop where
  told : Told pid v (requests seen) (completions seen) (reports seen)
  cancelled : v.isCancelled → .cancelled ∈ seen
  ended : ∀ {status}, v.process = .ended status ∨ v.process = .reaped status → .ended status ∈ seen

lemma requests_append (seen more : List VigilEffect) :
    requests (seen ++ more) = requests seen ++ requests more :=
  List.filterMap_append

lemma completions_append (seen more : List VigilEffect) :
    completions (seen ++ more) = completions seen ++ completions more :=
  List.filterMap_append

lemma reports_append (seen more : List VigilEffect) :
    reports (seen ++ more) = reports seen ++ reports more :=
  List.filterMap_append

/-- What changes neither the waiter nor the id of its process keeps what is told of them. -/
lemma Told.keep {asked : List (Option Nat)} {completed reported : List WaitResult}
    (told : Told pid v asked completed reported) (waiter : w.waiter = v.waiter)
    (id : w.id? = v.id?) : Told pid w asked completed reported := by
  cases told with
  | racing state alive => exact .racing (waiter.trans state) (id.trans alive)
  | draining state alive => exact .draining (waiter.trans state) (id.trans alive)
  | reported state asked => exact .reported (waiter.trans state) asked

/-- A waiter that has not reported has seen no wait complete, and its process has its id. -/
lemma Told.of_unreported {asked : List (Option Nat)} {completed reported : List WaitResult}
    (told : Told pid v asked completed reported) (unreported : v.waiter ≠ .reported) :
    (asked = [] ∨ asked = [some pid]) ∧ completed = [] ∧ reported = [] ∧ v.id? = some pid := by
  cases told with
  | racing _ alive => exact ⟨.inl rfl, rfl, rfl, alive⟩
  | draining _ alive => exact ⟨.inr rfl, rfl, rfl, alive⟩
  | reported state => exact absurd state unreported

/-- A waiter that still races has not asked for anything either. -/
lemma Told.of_racing {asked : List (Option Nat)} {completed reported : List WaitResult}
    (told : Told pid v asked completed reported) (racing : v.waiter = .racing) :
    asked = [] ∧ completed = [] ∧ reported = [] ∧ v.id? = some pid := by
  cases told with
  | racing _ alive => exact ⟨rfl, rfl, rfl, alive⟩
  | draining state | reported state => simp [racing] at state

/-- There is at most one request, and at most one report, of the one wait that completed. -/
lemma Told.once {asked : List (Option Nat)} {completed reported : List WaitResult}
    (told : Told pid v asked completed reported) :
    asked.length ≤ 1 ∧ reported.length ≤ 1 ∧ completed = reported ∧
      (v.waiter = .reported ↔ ∃ result, result ∈ reported) := by
  cases told with
  | racing state | draining state => simp [state]
  | reported state asked => rcases asked with rfl | rfl <;> simp [state]

lemma Told.step (told : Told pid v (requests seen) (completions seen) (reports seen))
    (passes : v.Passes w more) :
    Told pid w (requests (seen ++ more)) (completions (seen ++ more)) (reports (seen ++ more)) := by
  rw [requests_append, completions_append, reports_append]
  cases passes with
  | ends status running =>
    change Told pid _ (requests seen ++ []) (completions seen ++ []) (reports seen ++ [])
    simp only [List.append_nil]
    exact told.keep rfl (by simp [id?, running])
  | cancel =>
    change Told pid _ (requests seen ++ []) (completions seen ++ []) (reports seen ++ [])
    simp only [List.append_nil]
    exact told.keep rfl rfl
  | @request warnings _ racing quiet =>
    have none : requests warnings = [] ∧ completions warnings = [] ∧ reports warnings = [] := by
      refine ⟨?_, ?_, ?_⟩ <;>
      · refine List.filterMap_eq_nil_iff.mpr fun effect shown => ?_
        obtain ⟨reason, rfl⟩ := quiet effect shown
        rfl
    obtain ⟨asked, completed, reported, alive⟩ := told.of_racing racing
    rw [asked, completed, reported]
    change Told pid _ (v.id? :: requests warnings) (completions warnings) (reports warnings)
    rw [none.1, none.2.1, none.2.2, alive]
    exact .draining rfl alive
  | @report result process completes unreported =>
    obtain ⟨asked, completed, reported, -⟩ := told.of_unreported unreported
    rw [completed, reported]
    change Told pid _ (requests seen ++ []) [result] [result]
    rw [List.append_nil]
    exact .reported rfl asked

lemma Explained.step (explained : Explained pid v seen) (passes : v.Passes w more) :
    Explained pid w (seen ++ more) where
  told := explained.told.step passes
  cancelled known := by
    cases passes with
    | cancel => simp
    | ends | request | report => exact List.mem_append_left _ (explained.cancelled known)
  ended state := by
    cases passes with
    | ends status running =>
      refine List.mem_append_right _ (List.mem_singleton.mpr ?_)
      simpa [eq_comm] using state
    | cancel | request => exact List.mem_append_left _ (explained.ended state)
    | report completes =>
      refine List.mem_append_left _ (explained.ended ?_)
      cases completes with
      | failed => exact state
      | ended before =>
        obtain rfl : _ = _ := by simpa using state
        exact before

lemma Run.explained (run : Run pid v seen) : Explained pid v seen := by
  refine run.invariant ?_ fun _ explained passes => explained.step passes
  exact { told := .racing rfl rfl, cancelled := nofun, ended := by rintro _ ⟨⟩ <;> contradiction }

/-! ## What the waiter does -/

/-- A report as it stands in all that has happened: right behind the completion of the wait that it
is the result of. A status that is reported is one with which the process has ended. -/
def ReportsWait (seen : List VigilEffect) (result : WaitResult) : Prop :=
  ∃ front back, seen = front ++ [.waited result, .reported result] ++ back ∧
    completions front = [] ∧ reports front = [] ∧
    ∀ status, result = .ended status → .ended status ∈ front

/-- A request as it stands in all that has happened: behind a cancellation, and before any wait has
completed, so that it goes to the process that was started. -/
def AsksOnce (pid : Nat) (seen : List VigilEffect) (target : Option Nat) : Prop :=
  target = some pid ∧ ∃ front back, seen = front ++ .requested target :: back ∧
    .cancelled ∈ front ∧ requests front = [] ∧ completions front = []

/-- What a waiter does for its process. -/
structure Attended (pid : Nat) (v : Vigil) (seen : List VigilEffect) : Prop where
  once : (reports seen).length ≤ 1 ∧ completions seen = reports seen
  report : ∀ result, .reported result ∈ seen → ReportsWait seen result
  requested : (requests seen).length ≤ 1
  request : ∀ target, .requested target ∈ seen → AsksOnce pid seen target
  /-- The task is over exactly when it has reported. -/
  isOver : v.waiter = .reported ↔ ∃ result, .reported result ∈ seen
  /-- A task that is over does nothing more. -/
  rests : v.waiter = .reported →
    (∀ fault, v.step? (.waitPolled fault) = none) ∧
      ∀ outcome, v.step? (.cancellationPolled outcome) = none
  /-- A task that is not over reports as soon as it polls its wait after the end of the process. -/
  due : v.waiter ≠ .reported → v.process = .running ∨ ∃ status, v.process = .ended status ∧
    v.step? (.waitPolled none) =
      some ({ v with process := .reaped status, waiter := .reported },
        [.waited (.ended status), .reported (.ended status)])

lemma mem_reports {result : WaitResult} : result ∈ reports seen ↔ .reported result ∈ seen := by
  refine List.mem_filterMap.trans ⟨?_, fun shown => ⟨_, shown, rfl⟩⟩
  rintro ⟨effect, shown, said⟩
  cases effect <;> cases said
  exact shown

lemma Run.reportsWait {result : WaitResult} (run : Run pid v seen)
    (shown : .reported result ∈ seen) : ReportsWait seen result := by
  obtain ⟨u, w, front, more, back, before, passes, member, rfl⟩ := run.step_of_mem shown
  have explained := before.explained
  cases passes with
  | ends | cancel => simp at member
  | request _ _ quiet => simpa using quiet _ ((List.mem_cons.mp member).resolve_left nofun)
  | report completes unreported =>
    obtain rfl : _ = _ := by simpa using member
    obtain ⟨-, completed, reported, -⟩ := explained.told.of_unreported unreported
    refine ⟨front, back, rfl, completed, reported, ?_⟩
    rintro status rfl
    cases completes with
    | ended before => exact explained.ended before

lemma Run.asksOnce {target : Option Nat} (run : Run pid v seen)
    (shown : .requested target ∈ seen) : AsksOnce pid seen target := by
  obtain ⟨u, w, front, more, back, before, passes, member, rfl⟩ := run.step_of_mem shown
  have explained := before.explained
  cases passes with
  | ends | cancel | report => simp at member
  | @request warnings cancelled racing quiet =>
    obtain ⟨asked, completed, -, alive⟩ := explained.told.of_racing racing
    have same : target = u.id? := by
      rcases List.mem_cons.mp member with same | warned
      · exact VigilEffect.requested.inj same
      · simpa using quiet _ warned
    rw [same]
    exact ⟨alive, front, warnings ++ back, by simp, explained.cancelled cancelled, asked, completed⟩

/-- A waiter reports once, the end that its process has come to, and asks the process to end at most
once, as long as its status has not been taken. -/
theorem Run.attended (run : Run pid v seen) : Attended pid v seen := by
  have told := run.explained.told
  obtain ⟨asked, reported, same, isOver⟩ := told.once
  refine ⟨⟨reported, same⟩, fun _ => run.reportsWait, asked, fun _ => run.asksOnce, ?_, ?_, ?_⟩
  · simpa only [mem_reports] using isOver
  · intro reported
    refine ⟨fun fault => ?_, fun outcome => ?_⟩
    · simp only [step?, reported, Waiter.step?]
      cases v.wait? fault <;> rfl
    · simp only [step?, reported, Waiter.step?]
      split <;> rfl
  · intro unreported
    obtain ⟨-, -, -, alive⟩ := told.of_unreported unreported
    cases process : v.process with
    | running => exact .inl rfl
    | reaped status => simp [id?, process] at alive
    | ended status =>
      refine .inr ⟨status, rfl, ?_⟩
      cases waiter : v.waiter with
      | reported => exact absurd waiter unreported
      | racing | draining => simp [step?, wait?, process, waiter, Waiter.step?, Vigil.effect]

/-- The process is cancelled before the waiter has looked at anything and is killed at the same time,
and the waiter sees the cancellation first. -/
theorem attended_hasty :
    ∃ v, Run 7 v [.cancelled, .ended (.signal .kill), .cancelled, .requested (some 7),
        .waited (.ended (.signal .kill)), .reported (.ended (.signal .kill))] ∧
      Attended 7 v [.cancelled, .ended (.signal .kill), .cancelled, .requested (some 7),
        .waited (.ended (.signal .kill)), .reported (.ended (.signal .kill))] := by
  have first := @Run.step 7 _ _ .cancelled _ _ .begin rfl
  have second := @Run.step 7 _ _ (.processEnded (.signal .kill)) _ _ first rfl
  have third := @Run.step 7 _ _ .cancelled _ _ second rfl
  have fourth := @Run.step 7 _ _ (.cancellationPolled (.ok ())) _ _ third rfl
  have run := @Run.step 7 _ _ (.waitPolled none) _ _ fourth rfl
  exact ⟨_, run, run.attended⟩

/-! ## The waiter in a supervisor -/

/-- A server as its supervisor knows it. -/
def server (v : Vigil) (generation : Nat) : Server := ⟨generation, v.pid, v.isCancelled, v.waiter⟩

/-- Whatever a poll of a waiter comes to, the supervisor can take the same step: a request to end
changes its waiter alone, and a result that is reported joins the exits. -/
theorem stepWaiter_of_passes {s : System} {generation : Nat}
    (known : s.servers.find? (·.generation == generation) = some (v.server generation))
    (step : v.step? event = some (w, more)) :
    (∀ target, .requested target ∈ more → ∃ outcome shown,
      s.stepWaiter generation (.cancelled outcome) =
        some (s.setWaiter generation w.waiter, .endRequested generation v.pid :: shown)) ∧
    ∀ result, .reported result ∈ more →
      s.stepWaiter generation (.ended result) =
        some ({ s.setWaiter generation w.waiter with exits := s.exits ++ [⟨generation, result⟩] },
          [.exitQueued generation]) := by
  cases step?_passes step with
  | ends | cancel => simp
  | @request warnings cancelled racing quiet =>
    refine ⟨fun _ _ => ⟨.ok (), [], ?_⟩, fun result shown => ?_⟩
    · simp [System.stepWaiter, known, server, System.canSee, cancelled, racing, Waiter.step?,
        System.actFor, System.andThen]
    · simpa using quiet _ ((List.mem_cons.mp shown).resolve_left nofun)
  | @report result process completes unreported =>
    refine ⟨by simp, fun other shown => ?_⟩
    obtain rfl : _ = _ := by simpa using shown
    cases waiter : v.waiter with
    | reported => exact absurd waiter unreported
    | racing | draining =>
      simp [System.stepWaiter, known, server, System.canSee, waiter, Waiter.step?,
        System.actFor, System.andThen]
      rfl

end RaceControl.Vigil
