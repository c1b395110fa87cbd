import RaceControl.Proofs.Supervisor.Effects

/-!
Every change of state along a run is allowed, and the states that are published form rounds from one
idle state to the next.
-/
namespace RaceControl

/-- A walk through the states along allowed transitions. -/
inductive Walk (start : State) : List (State × State) → State → Prop
  | here : Walk start [] start
  | step {path s t} : Walk start path s → s.allows t = true → Walk start (path ++ [(s, t)]) t

lemma Walk.trans {a b c : State} {path more : List (State × State)} (first : Walk a path b)
    (second : Walk b more c) : Walk a (path ++ more) c := by
  induction second with
  | here => simpa using first
  | step walk allowed ih => simpa using Walk.step ih allowed

/-- The ways from one idle state to the next. -/
inductive Round
  | refused
  | ended
  | stopped

def Round.states : Round → List State
  | .refused => [.launching, .idle]
  | .ended => [.launching, .active, .tearingDown, .idle]
  | .stopped => [.launching, .active, .stopping, .tearingDown, .idle]

/-- The beginnings of a round, with the states they lead to. -/
inductive Opening : List State → State → Prop
  | idle : Opening [] .idle
  | launching : Opening [.launching] .launching
  | active : Opening [.launching, .active] .active
  | stopping : Opening [.launching, .active, .stopping] .stopping
  | ended : Opening [.launching, .active, .tearingDown] .tearingDown
  | stopped : Opening [.launching, .active, .stopping, .tearingDown] .tearingDown

/-- An allowed transition goes on with a round or ends it. -/
lemma Opening.step {part : List State} {s t : State} (opening : Opening part s)
    (allowed : s.allows t = true) :
    Opening (part ++ [t]) t ∨ t = .idle ∧ ∃ round, part ++ [t] = Round.states round := by
  cases opening with
  | idle =>
    cases t with
    | launching => exact .inl .launching
    | _ => exact absurd allowed (by decide)
  | launching =>
    cases t with
    | active => exact .inl .active
    | idle => exact .inr ⟨rfl, .refused, rfl⟩
    | _ => exact absurd allowed (by decide)
  | active =>
    cases t with
    | stopping => exact .inl .stopping
    | tearingDown => exact .inl .ended
    | _ => exact absurd allowed (by decide)
  | stopping =>
    cases t with
    | tearingDown => exact .inl .stopped
    | _ => exact absurd allowed (by decide)
  | ended =>
    cases t with
    | idle => exact .inr ⟨rfl, .ended, rfl⟩
    | _ => exact absurd allowed (by decide)
  | stopped =>
    cases t with
    | idle => exact .inr ⟨rfl, .stopped, rfl⟩
    | _ => exact absurd allowed (by decide)

lemma Opening.isPrefix {part : List State} {s : State} (opening : Opening part s) :
    ∃ round, part <+: Round.states round := by
  cases opening with
  | idle => exact ⟨.refused, List.nil_prefix⟩
  | launching => exact ⟨.refused, [.idle], rfl⟩
  | active => exact ⟨.ended, [.tearingDown, .idle], rfl⟩
  | stopping => exact ⟨.stopped, [.tearingDown, .idle], rfl⟩
  | ended => exact ⟨.ended, [.idle], rfl⟩
  | stopped => exact ⟨.stopped, [.idle], rfl⟩

lemma Opening.getLastD {part : List State} {s : State} (opening : Opening part s) :
    part.getLastD .idle = s := by
  cases opening <;> rfl

lemma Walk.allows {a b : State} {path : List (State × State)} (walk : Walk a path b) :
    ∀ change ∈ path, change.1.allows change.2 = true := by
  induction walk with
  | here => simp
  | step walk allowed ih =>
    intro change member
    rcases List.mem_append.mp member with member | member
    · exact ih change member
    · obtain rfl := List.mem_singleton.mp member
      exact allowed

/-- A walk from the idle state is made of rounds, the last of which may be under way. -/
lemma Walk.rounds {path : List (State × State)} {s : State} (walk : Walk .idle path s) :
    ∃ part, Serial Round.states (path.map (·.2)) part ∧ Opening part s := by
  induction walk with
  | here => exact ⟨[], .nil, .idle⟩
  | @step path s t walk allowed ih =>
    obtain ⟨part, serial, opening⟩ := ih
    have longer := serial.append [t]
    rw [List.map_append]
    rcases opening.step allowed with opening | ⟨rfl, round, whole⟩
    · exact ⟨_, longer, opening⟩
    · rw [whole] at longer
      exact ⟨[], longer.close, .idle⟩

/-- The change of state that an effect makes known. -/
def transition? : Effect → Option (State × State)
  | .published source target => some (source, target)
  | _ => none

/-- The changes of state that a history shows. -/
def transitions (seen : List Effect) : List (State × State) := seen.filterMap transition?

lemma transition?_of_minor {effect : Effect} (minor : System.Minor effect) :
    transition? effect = none := by
  cases minor with
  | incidental incidental => cases incidental <;> rfl
  | aside aside => cases aside <;> rfl
  | answered | finished => rfl

variable {seen more : List Effect}

lemma transitions_of_minor (minor : ∀ effect ∈ more, System.Minor effect) : transitions more = [] :=
  List.filterMap_eq_nil_iff.mpr fun effect shown => transition?_of_minor (minor effect shown)

@[simp] lemma transitions_append (seen more : List Effect) :
    transitions (seen ++ more) = transitions seen ++ transitions more :=
  List.filterMap_append

/-- Whether an effect is no complaint about a transition that is not allowed. -/
def IsLegal (effect : Effect) : Prop := ∀ e, effect ≠ .logged (.illegalTransition e)

lemma isLegal_of_minor {effect : Effect} (minor : System.Minor effect) : IsLegal effect := by
  rintro e rfl
  cases minor with
  | incidental incidental => cases incidental
  | aside aside => cases aside

namespace System
variable {s t u : System}

lemma Occasion.transitions {purpose : Purpose} {before : List Effect}
    (occasion : Occasion s u purpose before) : transitions before = [] := by
  cases occasion <;> rfl

lemma transitions_killing {env : Surroundings} (children : List Child) :
    transitions (.killing children :: children.flatMap (killChild env)) = [] :=
  List.filterMap_eq_nil_iff.mpr (forall_killing rfl (fun _ => rfl) fun _ incidental =>
    transition?_of_minor (.incidental incidental))

/-- Wherever the loop looks at an exit, the session it finds can be torn down. -/
lemma Attends.allows {next : Resumption} {x : Session} (attends : s.Attends next)
    (coherent : s.Coherent) (session : s.session = some x) :
    s.machine.allows .tearingDown = true := by
  have fits := coherent.phase
  cases attends with
  | waiting phase =>
    simp only [PhaseFits, phase] at fits
    rcases fits with ⟨-, vacant⟩ | ⟨machine | machine, -⟩
    · rw [vacant.session] at session
      contradiction
    · rw [machine]; rfl
    · rw [machine]; rfl
  | stopping phase =>
    simp only [PhaseFits, phase] at fits
    rw [fits.1]; rfl

lemma Turn.walk (turn : s.Turn t more) (coherent : s.Coherent) :
    Walk s.machine (transitions more) t.machine := by
  have fits := coherent.phase
  cases turn with
  | announce phase stage =>
    simp only [PhaseFits, phase, LaunchFits, stage] at fits
    rw [fits.1]
    exact .step .here rfl
  | fail phase failure =>
    simp only [PhaseFits, phase] at fits
    rw [fits.launching (by cases failure <;> simp [*])]
    cases failure <;> exact .step .here rfl
  | auxiliary phase start =>
    rw [transitions_of_minor (.of_incidental start.incidental)]
    exact .here
  | activate phase stage =>
    simp only [PhaseFits, phase] at fits
    rw [fits.launching (by simp [stage])]
    exact .step .here rfl
  | @beginVacant u purpose before phase quiet session occasion =>
    obtain ⟨_, _, finished⟩ := finishStop_fst u purpose
    rw [transitions_append, occasion.transitions, transitions_of_minor (minor_finishStop _),
      finished]
    obtain ⟨_, rfl⟩ := occasion.fst
    exact .here
  | @beginStop u purpose before x now phase quiet session occasion =>
    simp only [PhaseFits, phase] at fits
    rcases fits with ⟨-, vacant⟩ | ⟨machine | machine, -⟩
    · rw [vacant.session] at session
      contradiction
    · rw [transitions_append, occasion.transitions, machine]
      exact .step .here rfl
    · rw [transitions_append, occasion.transitions, machine]
      exact .here
  | exit attends queue session generation =>
    rw [transitions_append, transitions_of_minor (.of_incidental (incidental_exitWarning _))]
    exact .step .here (attends.allows coherent session)
  | staleExit attends queue stale =>
    rw [transitions_append, transitions_of_minor (.of_incidental (incidental_exitWarning _))]
    exact .here
  | kill =>
    rw [transitions_of_minor (.of_incidental (incidental_forceKill _ _))]
    exact .here
  | stopWrapper phase =>
    split <;> exact .here
  | killChildren env phase =>
    rw [transitions_killing]
    exact .here
  | @signal number rest next phase =>
    rcases s.signal_snd number with none | one
    · rw [none]; exact .here
    · rw [one]; exact .here
  | @tearDown x next phase session =>
    simp only [PhaseFits, phase] at fits
    obtain ⟨_, _, resumed⟩ :=
      resume_fst { s with machine := .idle, published := .idle, session := none } next
    change Walk _ ((_, _) :: transitions (resume ..).2) _
    rw [transitions_of_minor (minor_resume _), resumed, fits.1]
    exact .step .here rfl
  | findDirectory | loadOptions | openRelay | startServer | adopt | requestWrapper | giveUp | leave
  | forget | closeRelay | prune | signalled => exact .here

lemma Turn.legal (turn : s.Turn t more) : ∀ effect ∈ more, IsLegal effect := by
  have quiet effect (incidental : Incidental effect) : IsLegal effect :=
    isLegal_of_minor (.incidental incidental)
  cases turn with
  | fail phase failure => cases failure <;> simp [IsLegal]
  | auxiliary phase start => exact fun effect shown => quiet effect (start.incidental effect shown)
  | beginVacant phase vacant session occasion =>
    refine List.forall_mem_append.mpr ⟨?_, fun effect shown => ?_⟩
    · cases occasion <;> simp [IsLegal]
    · exact isLegal_of_minor (minor_finishStop _ effect shown)
  | beginStop now phase vacant session occasion =>
    cases occasion <;> split <;> simp [IsLegal]
  | exit | staleExit =>
    refine List.forall_mem_append.mpr ⟨fun effect shown => ?_, by simp [IsLegal]⟩
    exact quiet effect (incidental_exitWarning _ effect shown)
  | kill => exact fun effect shown => quiet effect (incidental_forceKill _ _ effect shown)
  | stopWrapper => split <;> simp [IsLegal]
  | killChildren env phase => exact forall_killing (by simp [IsLegal]) (by simp [IsLegal]) quiet
  | @signal number rest next phase =>
    rcases s.signal_snd number with none | one
    · simp [none]
    · simp [one, IsLegal]
  | tearDown =>
    refine List.forall_mem_cons.mpr ⟨by simp [IsLegal], List.forall_mem_cons.mpr
      ⟨by simp [IsLegal], fun effect shown => ?_⟩⟩
    exact isLegal_of_minor (minor_resume _ effect shown)
  | announce | findDirectory | loadOptions | openRelay | startServer | adopt | requestWrapper
  | activate | giveUp | leave | forget | closeRelay | prune | signalled => simp [IsLegal]

variable {settings : Settings} {collaborators : Collaborators}

lemma Run.legal (run : Run (fresh settings collaborators) s seen) :
    ∀ effect ∈ seen, IsLegal effect := by
  have kept := run.keeps (coherent_fresh settings collaborators)
    (P := fun _ seen => ∀ effect ∈ seen, IsLegal effect) (by simp)
    (fun _ legal turn => List.forall_mem_append.mpr ⟨legal, turn.legal⟩)
    (fun _ legal beside => List.forall_mem_append.mpr
      ⟨legal, fun effect shown => isLegal_of_minor (beside.minor effect shown)⟩)
    (fun _ legal _ => List.forall_mem_append.mpr
      ⟨legal, fun effect shown => isLegal_of_minor (minor_destroy effect shown)⟩)
  exact kept.2

lemma Run.walk (run : Run (fresh settings collaborators) s seen) :
    Walk .idle (transitions seen) s.machine := by
  have kept := run.keeps (coherent_fresh settings collaborators)
    (P := fun s seen => Walk .idle (transitions seen) s.machine) .here
    (fun coherent walk turn => by
      rw [transitions_append]
      exact walk.trans (turn.walk coherent))
    (fun _ walk beside => by
      rw [transitions_append, transitions_of_minor beside.minor, List.append_nil, beside.machine]
      exact walk)
    (fun _ walk _ => by
      rw [transitions_append, transitions_of_minor minor_destroy, List.append_nil]
      exact walk)
  exact kept.2

/-- What a run shows of its changes of state. -/
structure Orderly (s : System) (seen : List Effect) : Prop where
  published : s.published = s.machine
  /-- The complaint about a transition that is not allowed is never made. -/
  legal : ∀ e, .logged (.illegalTransition e) ∉ seen
  allowed : ∀ source target, .published source target ∈ seen → source.allows target = true
  walk : Walk .idle (transitions seen) s.machine
  rounds : ∃ (rounds : List Round) (part : List State) (round : Round),
    (transitions seen).map (·.2) = rounds.flatMap Round.states ++ part ∧
      part <+: round.states ∧ part.getLastD .idle = s.machine

theorem Run.orderly (run : Run (fresh settings collaborators) s seen) : s.Orderly seen := by
  have walk := run.walk
  obtain ⟨part, ⟨rounds, path⟩, opening⟩ := walk.rounds
  obtain ⟨round, beginning⟩ := opening.isPrefix
  refine ⟨run.coherent.published, fun e shown => run.legal _ shown e rfl,
    fun source target shown => ?_, walk, rounds, part, round, path, beginning, opening.getLastD⟩
  exact walk.allows (source, target) (List.mem_filterMap.mpr ⟨_, shown, rfl⟩)

/-- A launch goes from the idle state to the active one. -/
theorem orderly_launch :
    ∃ s seen, Run (fresh .standard ⟨false, false⟩) s seen ∧ s.Orderly seen ∧
      transitions seen = [(.idle, .launching), (.launching, .active)] := by
  obtain ⟨⟨s, seen⟩, steps, path⟩ : ∃ out ∈ steps? (fresh .standard ⟨false, false⟩)
      (launchInputs ⟨1, .start ⟨"race"⟩ (.direct ":9000" 9001)⟩),
      transitions out.2 = [(.idle, .launching), (.launching, .active)] := by
    decide
  have run := Run.none.steps steps
  exact ⟨s, seen, run, run.orderly, path⟩

end System
end RaceControl
