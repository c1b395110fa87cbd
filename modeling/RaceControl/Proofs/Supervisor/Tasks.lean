import RaceControl.Proofs.Supervisor.Effects

/-!
The tasks that run beside the control loop: the starts of the wrapper, the readers of the output
and the messages on their way. No other step takes part in their work, and all that they are given
is a new start of the wrapper and the pipes of a new server.
-/
namespace RaceControl.System
variable {s t u : System} {seen more : List Effect} {i : Input}

/-- The start of the wrapper that a launch is about to hand to a task. There is a session, and there
is a wrapper that is enabled and has a port. -/
def commission? (s : System) : Option WrapperStart :=
  match s.phase with
  | .launching l =>
    match l.stage with
    | .startWrapper _ options =>
      if s.collaborators.hasWrapper ∧ options.enableContentManagerWrapper
          ∧ options.contentManagerWrapperPort ≠ 0 then
        s.session.map fun x => ⟨x.generation, options.contentManagerWrapperPort, l.event⟩
      else none
    | _ => none
  | _ => none

/-- The starts of the wrapper that a step hands over. Only the loop itself hands over any. -/
def commissions (s : System) (i : Input) : List WrapperStart :=
  if i.isOwn then s.commission?.toList else []

/-- The pipes after a step of the loop: a new server brings its own. -/
inductive Lays (s : System) : List Pipe → Prop
  | nothing : Lays s s.pipes
  | server : Lays s
      (s.pipes ++ [⟨s.nextGeneration, .output, []⟩, ⟨s.nextGeneration, .errors, []⟩])

/-- A step that takes no part in the work of the tasks. -/
structure Spares (s t : System) (handed : List WrapperStart) (more : List Effect) : Prop where
  sendings : t.sendings = s.sendings
  log : t.log = s.log
  pipes : s.Lays t.pipes
  wrapperStarts : t.wrapperStarts = s.wrapperStarts ++ handed
  shown : ∀ effect ∈ more, effect.isDetached = false

lemma Spares.of_shown {handed : List WrapperStart} (sendings : t.sendings = s.sendings)
    (log : t.log = s.log) (pipes : t.pipes = s.pipes)
    (wrapperStarts : t.wrapperStarts = s.wrapperStarts ++ handed)
    (shown : ∀ effect ∈ more, effect.isDetached = false) : s.Spares t handed more :=
  ⟨sendings, log, pipes ▸ .nothing, wrapperStarts, shown⟩

/-- The loop shows nothing of what the tasks do. -/
lemma Turn.attached (turn : s.Turn t more) : ∀ effect ∈ more, effect.isDetached = false := by
  cases turn with
  | fail phase failure => cases failure <;> simp
  | auxiliary phase start =>
    intro effect shown
    cases start.outfitting effect shown <;> rfl
  | beginVacant phase quiet session occasion =>
    refine List.forall_mem_append.mpr ⟨?_, forall_finishStop (fun _ _ => rfl) rfl⟩
    cases occasion <;> simp
  | beginStop now phase quiet session occasion => cases occasion <;> split <;> simp
  | exit | staleExit => exact List.forall_mem_append.mpr ⟨forall_exitWarning rfl, by simp⟩
  | kill => exact forall_forceKill rfl fun _ => rfl
  | stopWrapper => split <;> simp
  | killChildren => exact forall_kills rfl (fun _ => rfl) fun _ _ _ => rfl
  | signal => exact forall_signal rfl
  | tearDown =>
    exact List.forall_mem_cons.mpr
      ⟨rfl, List.forall_mem_cons.mpr ⟨rfl, forall_resume (fun _ _ => rfl) rfl⟩⟩
  | _ => simp

lemma requestWrapper_commission {l : Launch} {dir : Path} {options : ServerOptions}
    (phase : s.phase = .launching l) (stage : l.stage = .startWrapper dir options) :
    (s.requestWrapper l options).wrapperStarts = s.wrapperStarts ++ s.commission?.toList := by
  simp only [requestWrapper, commission?, phase, stage]
  split
  · cases s.session with
    | none => exact (List.append_nil _).symm
    | some x => rfl
  · exact (List.append_nil _).symm

/-- The loop hands over a start of the wrapper where it comes to it, and nowhere else. -/
lemma Turn.commission (turn : s.Turn t more) :
    t.wrapperStarts = s.wrapperStarts ++ s.commission?.toList := by
  have keeps (same : t.wrapperStarts = s.wrapperStarts) (idle : s.commission? = none) :
      t.wrapperStarts = s.wrapperStarts ++ s.commission?.toList := by
    rw [same, idle]
    exact (List.append_nil _).symm
  cases turn with
  | requestWrapper phase stage => exact requestWrapper_commission phase stage
  | announce phase stage | findDirectory phase stage | loadOptions phase stage
  | openRelay phase stage | startServer phase stage | adopt phase stage | activate phase stage =>
    exact keeps rfl (by simp only [commission?, phase, stage])
  | fail phase failure =>
    cases failure with
    | directory stage | options stage | relay stage | server stage =>
      exact keeps rfl (by simp only [commission?, phase, stage])
  | auxiliary phase start =>
    cases start with
    | tracker stage | plugin stage | lastPlugin stage | command stage | lastCommand stage =>
      exact keeps rfl (by simp only [commission?, phase, stage])
  | beginVacant phase quiet session occasion =>
    obtain ⟨_, _, _, finished⟩ := occasion.finishStop_fst
    exact keeps (by rw [finished]) (by simp only [commission?, phase])
  | beginStop now phase quiet session occasion =>
    obtain ⟨_, rfl⟩ := occasion.fst
    exact keeps rfl (by simp only [commission?, phase])
  | exit attends | staleExit attends =>
    cases attends with
    | waiting phase | stopping phase => exact keeps rfl (by simp only [commission?, phase])
  | kill phase | giveUp phase | leave phase | forget phase | closeRelay phase | stopWrapper phase
  | killChildren env phase | prune phase | signal phase | signalled phase =>
    exact keeps rfl (by simp only [commission?, phase])
  | @tearDown x next phase =>
    obtain ⟨_, _, resumed⟩ := s.tearDown_fst next
    exact keeps (by rw [resumed]) (by simp only [commission?, phase])

lemma Turn.spares (turn : s.Turn t more) : s.Spares t s.commission?.toList more := by
  have shown := turn.attached
  have handed := turn.commission
  cases turn with
  | startServer => exact ⟨rfl, rfl, .server, handed, shown⟩
  | fail phase failure => cases failure <;> exact .of_shown rfl rfl rfl handed shown
  | beginVacant phase quiet session occasion =>
    obtain ⟨_, _, _, finished⟩ := occasion.finishStop_fst
    rw [finished] at handed ⊢
    exact .of_shown rfl rfl rfl handed shown
  | beginStop now phase quiet session occasion =>
    obtain ⟨_, rfl⟩ := occasion.fst
    exact .of_shown rfl rfl rfl handed shown
  | @tearDown x next =>
    obtain ⟨_, _, resumed⟩ := s.tearDown_fst next
    rw [resumed] at handed ⊢
    exact .of_shown rfl rfl rfl handed shown
  | _ => exact .of_shown rfl rfl rfl handed shown

/-- Every step is one of the tasks or spares them. -/
theorem step?_tasks (coherent : s.Coherent) (step : s.step? i = some (t, more)) :
    s.Detached i t more ∨ i.isDetached = false ∧ s.Spares t (s.commissions i) more := by
  cases detached : i.isDetached with
  | true => exact .inl (step?_detached detached step)
  | false =>
    refine .inr ⟨rfl, ?_⟩
    cases step?_move coherent step with
    | turn own turn =>
      rw [commissions, if_pos own]
      exact turn.spares
    | apart task =>
      rw [detached] at task
      contradiction
    | notice member racing beside quiet attached =>
      exact .of_shown rfl rfl rfl (List.append_nil _).symm attached
    | destroy => exact .of_shown rfl rfl rfl (List.append_nil _).symm (by simp [destroy])
    | enter | refuse | hangUp | report =>
      exact .of_shown rfl rfl rfl (List.append_nil _).symm (by simp)

end RaceControl.System
