import RaceControl.Proofs.Supervisor.Chapters

/-!
Sessions follow one another and never overlap: every run tells its chapters one after another, each
to its end before the next one begins.
-/
namespace RaceControl.System
variable {s t u : System} {seen more part : List Effect} {env : Surroundings} {wrapped : Bool}

/-- Of the kills themselves nothing but failures is told besides. -/
lemma filter_killing {p : Effect → Bool} (begun : ∀ children, p (.killing children) = true)
    (killed : ∀ child, p (.childKilled child) = true)
    (failed : ∀ name pid cause, p (.logged (.childNotKilled name pid cause)) = false)
    (children : List Child) :
    (.killing children :: children.flatMap (killChild env)).filter p = Chapter.kills children := by
  have one (child : Child) : (killChild env child).filter p = [.childKilled child] := by
    unfold killChild
    cases env.killChild child with
    | ok => simp [killed]
    | error cause => simp [killed, failed]
  rw [List.filter_cons_of_pos (begun children)]
  refine congrArg (List.cons _) ?_
  induction children with
  | nil => rfl
  | cons child rest ih =>
    rw [List.flatMap_cons, List.filter_append]
    exact congrArg₂ _ (one child) ih

lemma milestones_killing (children : List Child) :
    milestones (.killing children :: children.flatMap (killChild env)) =
      Chapter.kills children :=
  filter_killing (fun _ => rfl) (fun _ => rfl) (fun _ _ _ => rfl) children

/-- The first milestones of a session that is there. -/
def HasLaunched (s : System) (part : List Effect) : Prop :=
  ∃ n x spec, s.session = some x ∧ s.shared.relay = some n ∧ part = Chapter.launch n x spec

def LaunchPart (s : System) (stage : LaunchStage) (part : List Effect) : Prop :=
  match stage with
  | .announce | .readDirectory | .readOptions _ | .openRelay .. => part = []
  | .startServer _ _ n => part = [.relayOpened n]
  | .adopt _ _ n x => ∃ spec, part = [.relayOpened n, .serverStarted x.generation x.pid spec]
  | _ => s.HasLaunched part

/-- The milestones of a teardown up to one of its stages, where callers see the relay `current`. -/
inductive TeardownPart (wrapped : Bool) (current : Option Nat) (n : Nat) :
    TeardownStage → List Effect → Prop
  | forget : current = some n → TeardownPart wrapped current n .forget []
  | closeRelay : TeardownPart wrapped current n (.closeRelay (some n)) []
  | stopWrapper : TeardownPart wrapped current n .stopWrapper [.relayClosed n]
  | killChildren : TeardownPart wrapped current n .killChildren (Chapter.farewell wrapped n)
  | prune (children) :
    TeardownPart wrapped current n .prune (Chapter.farewell wrapped n ++ Chapter.kills children)
  | signal (children) {visited rest signalled} : signalled.Sublist visited →
    TeardownPart wrapped current n (.signal rest)
      (Chapter.farewell wrapped n ++ Chapter.kills children ++
        Chapter.signals (visited ++ rest) signalled)
  | finish (children) {channels signalled} : signalled.Sublist channels →
    TeardownPart wrapped current n .finish
      (Chapter.farewell wrapped n ++ Chapter.kills children ++ Chapter.signals channels signalled)

/-- The milestones of the chapter that is under way. -/
def Underway (wrapped : Bool) (s : System) (part : List Effect) : Prop :=
  match s.phase with
  | .waiting => s.session = none ∧ part = [] ∨ s.HasLaunched part
  | .launching l => s.LaunchPart l.stage part
  | .stopping _ => s.HasLaunched part
  | .tearingDown stage _ =>
    ∃ n x spec tail, s.session = some x ∧ TeardownPart wrapped s.shared.relay n stage tail ∧
      part = Chapter.launch n x spec ++ tail
  | .finished | .destroyed => ∃ chapter : Chapter, part <+: chapter.milestones wrapped

lemma underway_finishStop (vacant : u.session = none) (purpose : Purpose) :
    (u.finishStop purpose).1.Underway wrapped [] := by
  cases purpose with
  | stop ticket => exact .inl ⟨vacant, rfl⟩
  | relaunch ticket event addressing => exact rfl
  | shutdown => exact ⟨.abortive 0, List.nil_prefix⟩

lemma underway_resume (vacant : u.session = none) {next : Resumption}
    (final : next.IsFinal) : (u.resume next).1.Underway wrapped [] := by
  cases next with
  | wait => exact .inl ⟨vacant, rfl⟩
  | finishStop purpose => exact underway_finishStop vacant purpose
  | keepStopping stop => exact final.elim

/-- A session that is never torn down can still have its relay closed. -/
lemma farewell_isPrefix (n : Nat) (x : Session) (spec : ProcessSpec) (wrapped : Bool) :
    Chapter.launch n x spec ++ [.relayClosed n] <+:
      (Chapter.session n x spec [] [] [] (.refl _)).milestones wrapped :=
  List.prefix_append_right_inj _ |>.mpr (List.prefix_append ..)

lemma Occasion.milestones {purpose : Purpose} {before : List Effect}
    (occasion : Occasion s u purpose before) : milestones before = [] := by
  cases occasion <;> rfl

/-- What a step with new milestones does to the chapter under way. -/
inductive Progress (wrapped : Bool) (t : System) (part : List Effect) : List Effect → Prop
  | none : t.Underway wrapped part → Progress wrapped t part []
  | next {new} : t.Underway wrapped (part ++ new) → Progress wrapped t part new
  | last {new} (chapter : Chapter) : part ++ new = chapter.milestones wrapped →
    t.Underway wrapped [] → Progress wrapped t part new

lemma Turn.progress (turn : s.Turn t more) (coherent : s.Coherent)
    (wrapper : s.collaborators.hasWrapper = wrapped) (underway : s.Underway wrapped part) :
    Progress wrapped t part (milestones more) := by
  have fits := coherent.phase
  cases turn with
  | announce phase stage | findDirectory phase stage found | loadOptions phase stage found =>
    simp only [Underway, phase, LaunchPart, stage] at underway
    exact .none underway
  | openRelay phase stage opened =>
    simp only [Underway, phase, LaunchPart, stage] at underway
    subst underway
    exact .next rfl
  | startServer phase stage started =>
    simp only [Underway, phase, LaunchPart, stage] at underway
    subst underway
    exact .next ⟨_, rfl⟩
  | fail phase failure =>
    simp only [Underway, phase] at underway
    simp only [PhaseFits, phase] at fits
    have vacant := (failure.vacant fits).session
    cases failure with
    | directory stage _ | options stage _ | relay stage _ =>
      simp only [LaunchPart, stage] at underway
      exact .none (.inl ⟨vacant, underway⟩)
    | @server dir options n _ _ stage _ _ =>
      simp only [LaunchPart, stage] at underway
      subst underway
      exact .last (.abortive n) rfl (.inl ⟨vacant, rfl⟩)
  | adopt phase stage =>
    simp only [Underway, phase, LaunchPart, stage] at underway
    obtain ⟨spec, rfl⟩ := underway
    exact .next ⟨_, _, spec, rfl, rfl, rfl⟩
  | requestWrapper phase stage =>
    simp only [Underway, phase, LaunchPart, stage] at underway
    exact .none underway
  | auxiliary phase start =>
    simp only [Underway, phase] at underway
    rw [milestones_of_minor (.of_incidental start.incidental)]
    cases start with
    | tracker stage | plugin stage | lastPlugin stage | command stage | lastCommand stage =>
      simp only [LaunchPart, stage] at underway
      exact .none underway
  | activate phase stage =>
    simp only [Underway, phase, LaunchPart, stage] at underway
    exact .none (.inr underway)
  | @beginVacant u purpose before phase quiet session occasion =>
    simp only [Underway, phase] at underway
    have vacant : u.session = none := by cases occasion <;> exact session
    rw [milestones_append, occasion.milestones, milestones_of_minor (minor_finishStop _)]
    rcases underway with ⟨-, rfl⟩ | ⟨n, x, spec, present, -⟩
    · exact .none (underway_finishStop vacant purpose)
    · rw [session] at present
      contradiction
  | @beginStop u purpose before x now phase quiet session occasion =>
    simp only [Underway, phase] at underway
    have same : u.session = s.session ∧ u.shared = s.shared := by
      cases occasion <;> exact ⟨rfl, rfl⟩
    have quiet : milestones (.cancelled x.generation ::
        if s.machine = .active then [.published .active .stopping] else []) = [] := by
      split <;> rfl
    rw [milestones_append, occasion.milestones, quiet]
    rcases underway with ⟨vacant, -⟩ | ⟨n, y, spec, present, relay, rfl⟩
    · rw [session] at vacant
      contradiction
    · exact .none ⟨n, y, spec, same.1.trans present, same.2 ▸ relay, rfl⟩
  | exit attends queue session generation =>
    rw [milestones_append, milestones_of_minor (.of_incidental (incidental_exitWarning _))]
    have launched : s.HasLaunched part := by
      cases attends with
      | waiting phase =>
        simp only [Underway, phase] at underway
        rcases underway with ⟨vacant, -⟩ | launched
        · rw [session] at vacant
          contradiction
        · exact launched
      | stopping phase => simpa only [Underway, phase] using underway
    obtain ⟨n, x, spec, present, relay, rfl⟩ := launched
    exact .none ⟨n, x, spec, [], present, .forget relay, (List.append_nil _).symm⟩
  | staleExit attends queue stale =>
    rw [milestones_append, milestones_of_minor (.of_incidental (incidental_exitWarning _))]
    exact .none underway
  | kill phase quiet fresh grace =>
    simp only [Underway, phase] at underway
    rw [milestones_of_minor (.of_incidental (incidental_forceKill _ _))]
    exact .none underway
  | giveUp phase quiet late tried purpose =>
    simp only [Underway, phase] at underway
    exact .none (.inr underway)
  | leave phase quiet late tried purpose current found =>
    simp only [Underway, phase] at underway
    obtain ⟨n, x, spec, -, relay, rfl⟩ := underway
    obtain rfl := Option.some.inj (relay.symm.trans current)
    exact .next ⟨.session n x spec [] [] [] (.refl _), farewell_isPrefix _ _ _ _⟩
  | forget phase =>
    simp only [Underway, phase] at underway
    obtain ⟨n, x, spec, _, session, ⟨relay⟩, rfl⟩ := underway
    refine .none ⟨n, x, spec, [], session, ?_, rfl⟩
    rw [relay]
    exact .closeRelay
  | closeRelay phase found =>
    simp only [Underway, phase] at underway
    obtain ⟨n, x, spec, _, session, ⟨⟩, rfl⟩ := underway
    exact .next ⟨_, x, spec, _, session, .stopWrapper, rfl⟩
  | stopWrapper phase =>
    simp only [Underway, phase] at underway
    obtain ⟨n, x, spec, _, session, ⟨⟩, rfl⟩ := underway
    have stopped : milestones (if s.collaborators.hasWrapper then [.wrapperStopped] else []) =
        if wrapped then [.wrapperStopped] else [] := by
      rw [wrapper]
      cases wrapped <;> rfl
    rw [stopped]
    exact .next ⟨n, x, spec, _, session, .killChildren, List.append_assoc ..⟩
  | killChildren env phase =>
    simp only [Underway, phase] at underway
    obtain ⟨n, x, spec, _, session, ⟨⟩, rfl⟩ := underway
    rw [milestones_killing]
    exact .next ⟨n, x, spec, _, session, .prune _, List.append_assoc ..⟩
  | prune phase =>
    simp only [Underway, phase] at underway
    obtain ⟨n, x, spec, _, session, ⟨⟩, rfl⟩ := underway
    exact .next ⟨n, x, spec, _, session, .signal _ (.refl []), List.append_assoc ..⟩
  | @signal number rest next phase =>
    simp only [Underway, phase] at underway
    obtain ⟨n, x, spec, _, session, teardown, rfl⟩ := underway
    cases teardown with
    | @signal children visited _ signalled sent =>
      rw [List.append_cons]
      rcases s.signal_snd number with none | one
      · rw [none]
        have longer := sent.trans (List.sublist_append_left visited [number])
        exact .none ⟨n, x, spec, _, session, .signal children longer, rfl⟩
      · rw [one]
        have longer := sent.append (List.Sublist.refl [number])
        refine .next ⟨n, x, spec, _, session, .signal children longer, ?_⟩
        simp [Chapter.signals, milestones, Effect.isMilestone]
  | signalled phase =>
    simp only [Underway, phase] at underway
    obtain ⟨n, x, spec, _, session, teardown, rfl⟩ := underway
    cases teardown with
    | @signal children visited _ signalled sent =>
      rw [List.append_nil]
      exact .none ⟨n, x, spec, _, session, .finish children sent, rfl⟩
  | @tearDown x next phase session =>
    simp only [Underway, phase] at underway
    simp only [PhaseFits, phase] at fits
    obtain ⟨n, y, spec, _, present, teardown, rfl⟩ := underway
    obtain rfl := Option.some.inj (session.symm.trans present)
    cases teardown with
    | @finish children channels signalled sent =>
      refine .last (.session n x spec children channels signalled sent) ?_
        (underway_resume rfl fits.2.2)
      have torn : milestones (.published .tearingDown .idle :: .tornDown x.generation ::
          (resume { s with machine := .idle, published := .idle, session := none } next).2) =
            [.tornDown x.generation] :=
        congrArg (List.cons _) (milestones_of_minor (minor_resume _))
      rw [torn]
      exact List.append_assoc ..

/-- What a supervisor has been given stays as it is. -/
lemma Turn.given (turn : s.Turn t more) :
    t.settings = s.settings ∧ t.collaborators = s.collaborators := by
  cases turn with
  | fail phase failure => cases failure <;> exact ⟨rfl, rfl⟩
  | beginVacant phase quiet session occasion =>
    obtain ⟨_, _, _, finished⟩ := occasion.finishStop_fst
    rw [finished]
    exact ⟨rfl, rfl⟩
  | beginStop now phase quiet session occasion =>
    obtain ⟨_, rfl⟩ := occasion.fst
    exact ⟨rfl, rfl⟩
  | @tearDown x next phase session =>
    obtain ⟨_, _, resumed⟩ := s.tearDown_fst next
    rw [resumed]
    exact ⟨rfl, rfl⟩
  | _ => exact ⟨rfl, rfl⟩

lemma Turn.settings (turn : s.Turn t more) : t.settings = s.settings := turn.given.1

lemma Turn.collaborators (turn : s.Turn t more) : t.collaborators = s.collaborators := turn.given.2

/-- A launch goes on, or its request is no longer among those that wait for an answer. -/
lemma Turn.launching {l : Launch} (turn : s.Turn t more) (launching : s.phase = .launching l) :
    (∃ l, t.phase = .launching l) ∨ t.phase = .waiting ∧ t.requests = s.requests := by
  cases turn with
  | announce | findDirectory | loadOptions | openRelay | startServer | requestWrapper | adopt
  | auxiliary => exact .inl ⟨_, rfl⟩
  | activate => exact .inr ⟨rfl, rfl⟩
  | fail phase failure => cases failure <;> exact .inr ⟨rfl, rfl⟩
  | exit attends | staleExit attends =>
    cases attends with
    | waiting phase | stopping phase => simp [phase] at launching
  | _ => simp_all

lemma Run.given {settings : Settings} {collaborators : Collaborators}
    (run : Run (fresh settings collaborators) s seen) :
    s.settings = settings ∧ s.collaborators = collaborators :=
  (run.keeps (coherent_fresh settings collaborators)
    (P := fun s _ => s.settings = settings ∧ s.collaborators = collaborators) ⟨rfl, rfl⟩
    (fun _ same turn => ⟨turn.settings.trans same.1, turn.collaborators.trans same.2⟩)
    (fun _ same beside => ⟨beside.settings.trans same.1, beside.collaborators.trans same.2⟩)
    fun _ same _ => same).2

lemma TeardownPart.isPrefix {current : Option Nat} {n : Nat} {stage : TeardownStage}
    {tail : List Effect} (teardown : TeardownPart wrapped current n stage tail) (x : Session)
    (spec : ProcessSpec) :
    ∃ chapter : Chapter, Chapter.launch n x spec ++ tail <+: chapter.milestones wrapped := by
  cases teardown with
  | forget | closeRelay =>
    exact ⟨.session n x spec [] [] [] (.refl _), by simp [Chapter.milestones]⟩
  | stopWrapper => exact ⟨_, farewell_isPrefix n x spec wrapped⟩
  | killChildren =>
    exact ⟨.session n x spec [] [] [] (.refl _), by simp [Chapter.milestones]⟩
  | prune children =>
    exact ⟨.session n x spec children [] [] (.refl _), by simp [Chapter.milestones]⟩
  | @signal children visited rest signalled sent =>
    have whole := sent.trans (List.sublist_append_left visited rest)
    exact ⟨.session n x spec children _ signalled whole, by simp [Chapter.milestones]⟩
  | @finish children channels signalled sent =>
    exact ⟨.session n x spec children channels signalled sent, by simp [Chapter.milestones]⟩

/-- What is under way is the beginning of a chapter. -/
lemma Underway.isPrefix (underway : s.Underway wrapped part) :
    ∃ chapter : Chapter, part <+: chapter.milestones wrapped := by
  have launched (launched : s.HasLaunched part) :
      ∃ chapter : Chapter, part <+: chapter.milestones wrapped := by
    obtain ⟨n, x, spec, -, -, rfl⟩ := launched
    exact ⟨.session n x spec [] [] [] (.refl _), List.prefix_append ..⟩
  unfold Underway at underway
  split at underway
  case h_1 =>
    rcases underway with ⟨-, rfl⟩ | running
    · exact ⟨.abortive 0, List.nil_prefix⟩
    · exact launched running
  case h_2 l phase =>
    unfold LaunchPart at underway
    split at underway
    case h_5 dir options n stage =>
      subst underway
      exact ⟨.abortive n, [_], rfl⟩
    case h_6 dir options n x stage =>
      obtain ⟨spec, rfl⟩ := underway
      exact ⟨.session n x spec [] [] [] (.refl _), List.prefix_append ..⟩
    case h_7 => exact launched underway
    all_goals
      subst underway
      exact ⟨.abortive 0, List.nil_prefix⟩
  case h_3 => exact launched underway
  case h_4 =>
    obtain ⟨n, x, spec, tail, -, teardown, rfl⟩ := underway
    exact teardown.isPrefix x spec
  case h_5 => exact underway
  case h_6 => exact underway

lemma Beside.underway (beside : s.Beside t more) (underway : s.Underway wrapped part) :
    t.Underway wrapped part := by
  simpa only [Underway, LaunchPart, HasLaunched, beside.phase, beside.session, beside.relay]
    using underway

variable {settings : Settings} {collaborators : Collaborators}

lemma Run.underway (run : Run (fresh settings collaborators) s seen) :
    s.collaborators = collaborators ∧
      ∃ part, Serial (Chapter.milestones collaborators.hasWrapper) (milestones seen) part ∧
        s.Underway collaborators.hasWrapper part := by
  have kept := run.keeps (coherent_fresh settings collaborators)
    (P := fun s seen => s.collaborators = collaborators ∧
      ∃ part, Serial (Chapter.milestones collaborators.hasWrapper) (milestones seen) part ∧
        s.Underway collaborators.hasWrapper part)
    ⟨rfl, [], .nil, .inl ⟨rfl, rfl⟩⟩
    (fun {s t seen more} coherent ⟨same, part, serial, underway⟩ turn => by
      refine ⟨turn.collaborators.trans same, ?_⟩
      have longer := serial.append (milestones more)
      have progress := turn.progress coherent (congrArg _ same) underway
      rw [milestones_append]
      generalize milestones more = new at longer progress ⊢
      cases progress with
      | none underway => exact ⟨part, by simpa using serial, underway⟩
      | next underway => exact ⟨_, longer, underway⟩
      | last chapter whole underway =>
        rw [whole] at longer
        exact ⟨[], longer.close, underway⟩)
    (fun _ ⟨same, part, serial, underway⟩ beside => by
      refine ⟨beside.collaborators.trans same, part, ?_, beside.underway underway⟩
      rwa [milestones_append, milestones_of_minor beside.minor, List.append_nil])
    (fun _ ⟨same, part, serial, underway⟩ _ => by
      refine ⟨same, part, ?_, underway.isPrefix⟩
      rwa [milestones_append, milestones_of_minor minor_destroy, List.append_nil])
  exact kept.2

/-- A turn starts at most one server, as it is configured and with a generation that has not been
used. -/
lemma Turn.started (turn : s.Turn t more) :
    generations more = [] ∧ s.nextGeneration ≤ t.nextGeneration ∨
      (∃ pid, more = [.serverStarted s.nextGeneration pid s.settings.server]) ∧
        t.nextGeneration = s.nextGeneration + 1 := by
  cases turn with
  | startServer phase stage started => exact .inr ⟨⟨_, rfl⟩, rfl⟩
  | fail phase failure =>
    cases failure with
    | server => exact .inl ⟨rfl, Nat.le_succ _⟩
    | directory | options | relay => exact .inl ⟨rfl, Nat.le_refl _⟩
  | auxiliary phase start =>
    exact .inl ⟨generations_of_minor (.of_incidental start.incidental), Nat.le_refl _⟩
  | @beginVacant u purpose before phase quiet session occasion =>
    obtain ⟨_, _, finished⟩ := finishStop_fst u purpose
    have quiet : generations before = [] := by cases occasion <;> rfl
    obtain ⟨_, rfl⟩ := occasion.fst
    rw [generations_append, quiet, generations_of_minor (minor_finishStop _), finished]
    exact .inl ⟨rfl, Nat.le_refl _⟩
  | beginStop now phase quiet session occasion =>
    refine .inl ⟨?_, ?_⟩
    · cases occasion <;> split <;> rfl
    · obtain ⟨_, rfl⟩ := occasion.fst
      exact Nat.le_refl _
  | exit attends queue session generation =>
    refine .inl ⟨?_, Nat.le_refl _⟩
    rw [generations_append, generations_of_minor (.of_incidental (incidental_exitWarning _))]
    rfl
  | staleExit attends queue stale =>
    refine .inl ⟨?_, Nat.le_refl _⟩
    rw [generations_append, generations_of_minor (.of_incidental (incidental_exitWarning _))]
    rfl
  | kill phase quiet fresh grace =>
    exact .inl ⟨generations_of_minor (.of_incidental (incidental_forceKill _ _)), Nat.le_refl _⟩
  | stopWrapper phase =>
    refine .inl ⟨?_, Nat.le_refl _⟩
    split <;> rfl
  | killChildren env phase =>
    have quiet effect (incidental : Incidental effect) : generation? effect = none :=
      generation?_of_minor (.incidental incidental)
    exact .inl ⟨List.filterMap_eq_nil_iff.mpr (forall_killing rfl (fun _ => rfl) quiet),
      Nat.le_refl _⟩
  | @signal number rest next phase =>
    refine .inl ⟨?_, Nat.le_refl _⟩
    rcases s.signal_snd number with none | one
    · rw [none]
      rfl
    · rw [one]
      rfl
  | @tearDown x next phase session =>
    obtain ⟨_, _, resumed⟩ := s.tearDown_fst next
    have later := congrArg System.nextGeneration resumed
    refine .inl ⟨?_, Nat.le_of_eq later.symm⟩
    exact List.filterMap_eq_nil_iff.mpr (List.forall_mem_cons.mpr ⟨rfl, List.forall_mem_cons.mpr
      ⟨rfl, fun effect shown => generation?_of_minor (minor_resume _ effect shown)⟩⟩)
  | _ => exact .inl ⟨rfl, Nat.le_refl _⟩

lemma Run.increasing (run : Run (fresh settings collaborators) s seen) :
    (∀ g ∈ generations seen, g < s.nextGeneration) ∧ (generations seen).Pairwise (· < ·) := by
  have kept := run.keeps (coherent_fresh settings collaborators)
    (P := fun s seen => (∀ g ∈ generations seen, g < s.nextGeneration) ∧
      (generations seen).Pairwise (· < ·))
    ⟨by simp [generations], .nil⟩
    (fun {s t seen more} _ ⟨below, ordered⟩ turn => by
      rw [generations_append]
      rcases turn.started with ⟨none, later⟩ | ⟨⟨pid, rfl⟩, later⟩
      · rw [none, List.append_nil]
        exact ⟨fun g started => Nat.lt_of_lt_of_le (below g started) later, ordered⟩
      · rw [later, show generations [.serverStarted s.nextGeneration pid s.settings.server] =
          [s.nextGeneration] from rfl]
        refine ⟨fun g started => ?_,
          List.pairwise_append.mpr ⟨ordered, List.pairwise_singleton _ _, ?_⟩⟩
        · rcases List.mem_append.mp started with started | started
          · exact Nat.lt_succ_of_lt (below g started)
          · obtain rfl := List.mem_singleton.mp started
            exact Nat.lt_succ_self _
        · intro g started next new
          obtain rfl := List.mem_singleton.mp new
          exact below g started)
    (fun _ ⟨below, ordered⟩ beside => by
      rw [generations_append, generations_of_minor beside.minor, List.append_nil,
        beside.nextGeneration]
      exact ⟨below, ordered⟩)
    (fun _ ⟨below, ordered⟩ _ => by
      rw [generations_append, generations_of_minor minor_destroy, List.append_nil]
      exact ⟨below, ordered⟩)
  exact kept.2

/-- What a run has done for its sessions. -/
structure Chronicle (s : System) (seen : List Effect) : Prop where
  /-- Chapters are told one after another, each to its end before the next. -/
  chapters : ∃ chapters : List Chapter,
    milestones seen <+: chapters.flatMap (·.milestones s.collaborators.hasWrapper)
  generations : (generations seen).Pairwise (· < ·)
  alternate : ∃ generations : List Nat, boundaries seen <+: generations.flatMap boundaryPair
  isRunning : s.phase = .waiting → (s.isRunning = true ↔
    seen.countP Effect.isLaunch = seen.countP Effect.isTeardown + 1)

/-- The launches and teardowns of a run that stands between two requests. -/
lemma Run.counts (run : Run (fresh settings collaborators) s seen) (phase : s.phase = .waiting) :
    s.isRunning = true ↔ seen.countP Effect.isLaunch = seen.countP Effect.isTeardown + 1 := by
  obtain ⟨-, part, ⟨whole, told⟩, underway⟩ := run.underway
  have fits := run.coherent.phase
  obtain ⟨gs, pairs⟩ := boundaries_chapters collaborators.hasWrapper whole
  have bounds : boundaries seen = gs.flatMap boundaryPair ++ boundaries part := by
    rw [← boundaries_milestones, told, boundaries_append, pairs]
  obtain ⟨launches, teardowns⟩ := countP_boundaries seen
  obtain ⟨launched, tornDown⟩ := countP_boundaryPairs gs
  rw [← launches, ← teardowns, bounds, List.countP_append, List.countP_append, launched, tornDown]
  simp only [PhaseFits, phase] at fits
  simp only [Underway, phase] at underway
  rcases underway with ⟨session, rfl⟩ | ⟨n, x, spec, session, -, rfl⟩
  · rcases fits with ⟨-, vacant⟩ | ⟨-, x, e, n, occupied, -⟩
    · simp [isRunning, vacant.event, boundaries]
    · rw [occupied.session] at session
      contradiction
  · rcases fits with ⟨-, vacant⟩ | ⟨-, y, e, n, occupied, -⟩
    · rw [vacant.session] at session
      contradiction
    · simp only [isRunning, occupied.event, Option.isSome_some, true_iff]
      rfl

theorem Run.chronicle (run : Run (fresh settings collaborators) s seen) : s.Chronicle seen := by
  obtain ⟨same, part, ⟨whole, told⟩, underway⟩ := run.underway
  obtain ⟨last, beginning⟩ := underway.isPrefix
  have chapters : milestones seen <+:
      (whole ++ [last]).flatMap (·.milestones s.collaborators.hasWrapper) := by
    rw [told, same, List.flatMap_append, List.flatMap_singleton]
    exact (List.prefix_append_right_inj _).mpr beginning
  obtain ⟨gs, pairs⟩ := boundaries_chapters s.collaborators.hasWrapper (whole ++ [last])
  refine ⟨⟨_, chapters⟩, run.increasing.2, ⟨gs, ?_⟩, run.counts⟩
  rw [← boundaries_milestones, ← pairs]
  exact chapters.filter _

/-- A second session after the server of the first one has ended by itself. -/
theorem chronicle_relaunch :
    ∃ s seen, Run (fresh .standard ⟨true, false⟩) s seen ∧ s.Chronicle seen ∧
      boundaries seen = [.launched 1, .tornDown 1, .launched 2] := by
  have steps : ∃ out ∈ (fresh .standard ⟨true, false⟩).steps?
      (launchInputs ⟨1, .start ⟨"race"⟩ (.direct ":9000" 9001)⟩ ++
        exitInputs 1 0 ++
        launchInputs ⟨2, .start ⟨"sprint"⟩ (.direct ":9000" 9001)⟩),
      boundaries out.2 = [.launched 1, .tornDown 1, .launched 2] := by
    refine ⟨_, rfl, rfl⟩
  obtain ⟨⟨s, seen⟩, steps, order⟩ := steps
  have run := Run.none.steps steps
  exact ⟨s, seen, run, run.chronicle, order⟩

end RaceControl.System
