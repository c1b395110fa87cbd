import RaceControl.Proofs.Supervisor.Exits
import RaceControl.Proofs.Supervisor.Requests

/-!
What a supervisor remembers of its launches: the event of the one that has succeeded last, and the
addressing of the one that has tried last to open its relay.
-/
namespace RaceControl

/-- Whether an effect tells of a session that is launched or of the relay that a launch opens. -/
def Effect.isTrial : Effect → Bool
  | .launched _ | .relayOpened _ | .logged (.startFailed (.relay _)) => true
  | _ => false

/-- A ledger with the request whose launch tried last to open its relay, with success or not. -/
structure Trial extends Ledger where
  opening : Option Request
  deriving DecidableEq, Repr, Inhabited

namespace Trial
variable {more : List Effect}

def record (trial : Trial) (effect : Effect) : Trial where
  toLedger := trial.toLedger.record effect
  opening :=
    match effect with
    | .relayOpened _ | .logged (.startFailed (.relay _)) => trial.taken
    | _ => trial.opening

def ofHistory (seen : List Effect) : Trial := seen.foldl record ⟨⟨none, none⟩, none⟩

lemma ofHistory_append (seen more : List Effect) :
    ofHistory (seen ++ more) = more.foldl record (ofHistory seen) :=
  List.foldl_append

lemma toLedger_foldl (more : List Effect) (trial : Trial) :
    (more.foldl record trial).toLedger = more.foldl Ledger.record trial.toLedger := by
  induction more generalizing trial with
  | nil => rfl
  | cons effect rest ih => exact ih (trial.record effect)

lemma toLedger_ofHistory (seen : List Effect) :
    (ofHistory seen).toLedger = Ledger.ofHistory seen :=
  toLedger_foldl seen _

lemma record_of_quiet {effect : Effect} (quiet : effect.isTrial = false) (trial : Trial) :
    (trial.record effect).launched = trial.launched ∧
      (trial.record effect).opening = trial.opening := by
  cases effect with
  | launched | relayOpened => contradiction
  | logged entry =>
    cases entry with
    | startFailed cause =>
      cases cause with
      | relay => contradiction
      | _ => exact ⟨rfl, rfl⟩
    | _ => exact ⟨rfl, rfl⟩
  | _ => exact ⟨rfl, rfl⟩

lemma foldl_of_quiet (quiet : ∀ effect ∈ more, effect.isTrial = false) (trial : Trial) :
    (more.foldl record trial).launched = trial.launched ∧
      (more.foldl record trial).opening = trial.opening := by
  induction more generalizing trial with
  | nil => exact ⟨rfl, rfl⟩
  | cons effect rest ih =>
    obtain ⟨launched, opening⟩ := record_of_quiet (quiet effect (List.mem_cons_self ..)) trial
    obtain ⟨later, last⟩ :=
      ih (fun effect member => quiet effect (List.mem_cons_of_mem _ member)) (trial.record effect)
    exact ⟨later.trans launched, last.trans opening⟩

end Trial

namespace System
variable {s t u : System} {seen more : List Effect} {i : Input}

/-- A launch is about to open its relay. -/
def IsOpening (s : System) : Prop :=
  match s.phase with
  | .launching l =>
    match l.stage with
    | .openRelay .. => True
    | _ => False
  | _ => False

/-- A launch has opened its relay and has not set its session. -/
def HasOpened (s : System) : Prop :=
  match s.phase with
  | .launching l =>
    match l.stage with
    | .startServer .. | .adopt .. => True
    | _ => False
  | _ => False

/-- What a turn tells of what a restart will start. -/
inductive Tells (s t : System) (more : List Effect) : Prop
  | nothing : (∀ effect ∈ more, effect.isTrial = false) →
    t.shared.lastEvent = s.shared.lastEvent → t.shared.addressing = s.shared.addressing →
    ¬s.IsOpening → ¬t.IsOpening → (t.HasOpened → s.HasOpened) → Tells s t more
  | reads {l} : s.phase = .launching l → (∀ effect ∈ more, effect.isTrial = false) →
    t.shared.lastEvent = s.shared.lastEvent → t.IsOpening → ¬t.HasOpened → Tells s t more
  | opens {l} : s.phase = .launching l → s.IsOpening → ¬t.IsOpening →
    t.shared.lastEvent = s.shared.lastEvent → t.shared.addressing = s.shared.addressing →
    RaceControl.launches more = [] →
    (∀ trial : Trial, (more.foldl Trial.record trial).launched = trial.launched ∧
      (more.foldl Trial.record trial).opening = trial.taken) → Tells s t more
  | launches {l generation} : s.phase = .launching l → s.HasOpened → ¬s.IsOpening →
    ¬t.IsOpening → ¬t.HasOpened → t.shared.lastEvent = some l.event →
    t.shared.addressing = s.shared.addressing → more = [.launched generation] → Tells s t more

lemma IsOpening.openRelay (opening : s.IsOpening) :
    ∃ l dir options, s.phase = .launching l ∧ l.stage = .openRelay dir options := by
  unfold IsOpening at opening
  split at opening
  case h_1 l phase =>
    split at opening
    case h_1 dir options stage => exact ⟨l, dir, options, phase, stage⟩
    case h_2 => contradiction
  case h_2 => contradiction

lemma HasOpened.launching (opened : s.HasOpened) :
    ∃ l, s.phase = .launching l ∧ l.stage ≠ .announce := by
  unfold HasOpened at opened
  split at opened
  case h_1 l phase =>
    refine ⟨l, phase, fun stage => ?_⟩
    simp [stage] at opened
  case h_2 => contradiction

lemma Outside.tells (outside : Outside s t more) (idle : ∀ l, s.phase ≠ .launching l) :
    Tells s t more := by
  refine .nothing (fun effect shown => ?_) outside.lastEvent outside.addressing ?_ ?_ ?_
  · cases outside.shown effect shown <;> rfl
  · intro opening
    obtain ⟨l, -, -, phase, -⟩ := opening.openRelay
    exact idle l phase
  · intro opening
    obtain ⟨l, dir, options, phase, stage⟩ := opening.openRelay
    cases stage.symm.trans (outside.begins l phase)
  · intro opened
    obtain ⟨l, phase, announced⟩ := opened.launching
    exact absurd (outside.begins l phase) announced

lemma Turn.tells (turn : s.Turn t more) : Tells s t more := by
  by_cases idle : ∀ l, s.phase ≠ .launching l
  · exact (turn.outside idle).tells idle
  cases turn with
  | announce phase stage | findDirectory phase stage | requestWrapper phase stage
  | activate phase stage =>
    exact .nothing (by simp [Effect.isTrial]) rfl rfl (by simp [IsOpening, phase, stage])
      (by simp [IsOpening]) (by simp [HasOpened])
  | startServer phase stage =>
    exact .nothing (by simp [Effect.isTrial]) rfl rfl (by simp [IsOpening, phase, stage])
      (by simp [IsOpening]) (by simp [HasOpened, phase, stage])
  | loadOptions phase stage =>
    exact .reads phase (by simp) rfl (by simp [IsOpening]) (by simp [HasOpened])
  | openRelay phase stage opened =>
    exact .opens phase (by simp [IsOpening, phase, stage]) (by simp [IsOpening]) rfl rfl rfl
      fun trial => ⟨rfl, rfl⟩
  | fail phase failure =>
    cases failure with
    | directory stage | options stage | server stage =>
      exact .nothing (by simp [Effect.isTrial]) rfl rfl (by simp [IsOpening, phase, stage])
        (by simp [IsOpening]) (by simp [HasOpened])
    | relay stage =>
      exact .opens phase (by simp [IsOpening, phase, stage]) (by simp [IsOpening]) rfl rfl rfl
        fun trial => ⟨rfl, rfl⟩
  | adopt phase stage =>
    exact .launches phase (by simp [HasOpened, phase, stage]) (by simp [IsOpening, phase, stage])
      (by simp [IsOpening]) (by simp [HasOpened]) rfl rfl rfl
  | auxiliary phase start =>
    have quiet effect (shown : effect ∈ more) : effect.isTrial = false := by
      cases start.outfitting effect shown <;> rfl
    cases start with
    | tracker stage | plugin stage | lastPlugin stage | command stage | lastCommand stage =>
      exact .nothing quiet rfl rfl (by simp [IsOpening, phase, stage]) (by simp [IsOpening])
        (by simp [HasOpened])
  | exit attends | staleExit attends =>
    refine absurd (fun l launching => ?_) idle
    cases attends with
    | waiting phase | stopping phase => simp [phase] at launching
  | _ => simp_all

lemma Beside.quiet (beside : s.Beside t more) : ∀ effect ∈ more, effect.isTrial = false := by
  intro effect shown
  cases beside.aside effect shown <;> rfl

lemma launches_of_quiet (quiet : ∀ effect ∈ more, effect.isTrial = false) : launches more = [] := by
  refine List.filterMap_eq_nil_iff.mpr fun effect shown => ?_
  have quiet := quiet effect shown
  cases effect with
  | launched generation => contradiction
  | _ => rfl

/-- What a supervisor remembers of its launches: the event of the one that has succeeded last, and
the addressing of the one that has tried last to open a relay. -/
structure Recalls (s : System) (seen : List Effect) : Prop where
  event : (launches seen = [] ∧ s.shared.lastEvent = none) ∨
    launches seen ≠ [] ∧ ∃ ticket e a,
      (Trial.ofHistory seen).launched = some ⟨ticket, .start e a⟩ ∧ s.shared.lastEvent = some e
  addressing : (launches seen = [] ∧ ¬s.HasOpened) ∨
    ∃ ticket e a, (Trial.ofHistory seen).opening = some ⟨ticket, .start e a⟩ ∧
      (s.IsOpening ∨ s.shared.addressing = a)

variable {settings : Settings} {collaborators : Collaborators}

lemma Recalls.of_quiet (recalls : s.Recalls seen)
    (quiet : ∀ effect ∈ more, effect.isTrial = false)
    (lastEvent : t.shared.lastEvent = s.shared.lastEvent)
    (hasOpened : t.HasOpened → s.HasOpened)
    (addressing : ∀ a, s.IsOpening ∨ s.shared.addressing = a →
      t.IsOpening ∨ t.shared.addressing = a) : t.Recalls (seen ++ more) := by
  obtain ⟨launched, opening⟩ := Trial.foldl_of_quiet quiet (Trial.ofHistory seen)
  have none : launches (seen ++ more) = launches seen := by
    rw [launches_append, launches_of_quiet quiet, List.append_nil]
  constructor
  · rw [none, Trial.ofHistory_append, launched, lastEvent]
    exact recalls.event
  · rw [none, Trial.ofHistory_append, opening]
    rcases recalls.addressing with ⟨never, early⟩ | ⟨ticket, e, a, tried, kept⟩
    · exact .inl ⟨never, fun later => early (hasOpened later)⟩
    · exact .inr ⟨ticket, e, a, tried, addressing a kept⟩

/-- A launch is made for the request that has been taken last. -/
lemma Run.taken {l : Launch} (run : Run (fresh settings collaborators) s seen)
    (phase : s.phase = .launching l) :
    (Trial.ofHistory seen).taken = some ⟨l.ticket, .start l.event l.addressing⟩ := by
  have stems := run.stems.phase
  simp only [PhaseStems, phase] at stems
  rw [Trial.toLedger_ofHistory]
  exact stems

lemma Turn.recalls (turn : s.Turn t more) (run : Run (fresh settings collaborators) s seen)
    (recalls : s.Recalls seen) : t.Recalls (seen ++ more) := by
  have fits := run.coherent.phase
  cases turn.tells with
  | nothing quiet lastEvent addressing before after hasOpened =>
    refine recalls.of_quiet quiet lastEvent hasOpened fun a kept => .inr ?_
    exact addressing.trans (kept.resolve_left before)
  | reads phase quiet lastEvent opening early =>
    exact recalls.of_quiet quiet lastEvent (fun later => absurd later early) fun _ _ => .inl opening
  | @opens l phase before after lastEvent addressing none trial =>
    obtain ⟨launched, opening⟩ := trial (Trial.ofHistory seen)
    have none : launches (seen ++ more) = launches seen := by
      rw [launches_append, none, List.append_nil]
    constructor
    · rw [none, Trial.ofHistory_append, launched, lastEvent]
      exact recalls.event
    · refine .inr ⟨l.ticket, l.event, l.addressing, ?_, .inr (addressing.trans ?_)⟩
      · rw [Trial.ofHistory_append, opening, run.taken phase]
      · simp only [IsOpening, phase] at before
        cases stage : l.stage with
        | openRelay =>
          simp only [PhaseFits, phase, LaunchFits, stage] at fits
          exact fits.2.2
        | _ => simp only [stage] at before
  | @launches l generation phase opened before after early later addressing shown =>
    subst shown
    constructor
    · refine .inr ⟨?_, l.ticket, l.event, l.addressing, ?_, later⟩
      · rw [launches_append]
        exact List.append_ne_nil_of_right_ne_nil _ (List.cons_ne_nil _ _)
      · rw [Trial.ofHistory_append]
        exact run.taken phase
    · rcases recalls.addressing with ⟨-, early⟩ | ⟨ticket, e, a, tried, kept⟩
      · exact absurd opened early
      · rw [Trial.ofHistory_append]
        exact .inr ⟨ticket, e, a, tried, .inr (addressing.trans (kept.resolve_left before))⟩

lemma Run.recalls (run : Run (fresh settings collaborators) s seen)
    (alive : s.phase ≠ .destroyed) : s.Recalls seen := by
  refine run.keeps_alive (P := fun s seen => s.Recalls seen)
    ⟨.inl ⟨rfl, rfl⟩, .inl ⟨rfl, id⟩⟩ ?_ alive
  intro s t seen more i run recalls move alive
  have unchanged (quiet : ∀ effect ∈ more, effect.isTrial = false) (phase : t.phase = s.phase)
      (lastEvent : t.shared.lastEvent = s.shared.lastEvent)
      (addressing : t.shared.addressing = s.shared.addressing) : t.Recalls (seen ++ more) :=
    recalls.of_quiet quiet lastEvent (by simp only [HasOpened, phase, imp_self])
      (by simp only [IsOpening, phase, addressing, imp_self, implies_true])
  cases move with
  | turn own turn => exact turn.recalls run recalls
  | enter | refuse | hangUp | report => exact unchanged (by simp [Effect.isTrial]) rfl rfl rfl
  | notice member racing beside =>
    exact unchanged beside.quiet beside.phase beside.lastEvent beside.addressing
  | apart detached apart =>
    exact unchanged apart.toBeside.quiet apart.phase apart.lastEvent apart.addressing
  | destroy => exact absurd rfl alive

/-- As long as nobody is asking for a start, nothing is launched and no relay is opened. -/
lemma Move.quiet (move : s.Move i t more)
    (unasked : ∀ request ∈ s.pending, request.demand = .stop) :
    ∀ effect ∈ more, effect.isTrial = false := by
  cases move with
  | turn own turn =>
    have idle (l : Launch) (phase : s.phase = .launching l) : False := by
      have stop := unasked ⟨l.ticket, .start l.event l.addressing⟩
        (by simp [pending, phase, Phase.request?])
      contradiction
    intro effect shown
    cases (turn.outside idle).shown effect shown <;> rfl
  | enter | refuse | hangUp | report => simp [Effect.isTrial]
  | notice member racing beside => exact beside.quiet
  | apart detached apart => exact apart.toBeside.quiet
  | destroy =>
    intro effect shown
    obtain ⟨ticket, -, rfl⟩ := List.mem_map.mp shown
    rfl

end System
end RaceControl
