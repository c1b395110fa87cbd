import RaceControl.Proofs.Supervisor.Runs

/-!
What the parts of a step show. Most of it is incidental: it says nothing about the session, about
requests or about the state.
-/
namespace RaceControl

/-- A sequence of whole chapters with the beginning of one more. -/
def Serial {α β : Type} (chapter : α → List β) (xs part : List β) : Prop :=
  ∃ whole : List α, xs = whole.flatMap chapter ++ part

namespace Serial
variable {α β : Type} {chapter : α → List β} {xs part : List β}

lemma nil : Serial chapter [] [] := ⟨[], rfl⟩

lemma append (serial : Serial chapter xs part) (more : List β) :
    Serial chapter (xs ++ more) (part ++ more) := by
  obtain ⟨whole, rfl⟩ := serial
  exact ⟨whole, List.append_assoc ..⟩

lemma close {a : α} (serial : Serial chapter xs (chapter a)) : Serial chapter xs [] := by
  obtain ⟨whole, rfl⟩ := serial
  exact ⟨whole ++ [a], by simp⟩

end Serial

namespace System
variable {s t u : System} {more : List Effect} {env : Surroundings} {l : Launch}

inductive Incidental : Effect → Prop
  | configWritten {options} : Incidental (.configWritten options)
  | childStarted {child spec} : Incidental (.childStarted child spec)
  | serverKilled {pid} : Incidental (.serverKilled pid)
  | serverEnded {result} : Incidental (.logged (.serverEnded result))
  | startFailed {cause} : Incidental (.logged (.startFailed cause))
  | stopFailed {cause} : Incidental (.logged (.stopFailed cause))
  | shutdownFailed {cause} : Incidental (.logged (.shutdownFailed cause))
  | killFailed {cause} : Incidental (.logged (.killFailed cause))
  | trackerRefused {cause} : Incidental (.logged (.trackerRefused cause))
  | trackerFailed {cause} : Incidental (.logged (.trackerFailed cause))
  | commandFailed {command cause} : Incidental (.logged (.commandFailed command cause))
  | commandsDeprecated : Incidental (.logged .commandsDeprecated)
  | directoryUnknown {fallback} : Incidental (.logged (.directoryUnknown fallback))
  | childNotKilled {name pid cause} : Incidental (.logged (.childNotKilled name pid cause))

lemma eq_of_mem_exitWarning {exit : Exit} {effect : Effect} (shown : effect ∈ exitWarning exit) :
    effect = .logged (.serverEnded exit.result) := by
  unfold exitWarning at shown
  split at shown
  · split at shown
    · contradiction
    · exact List.mem_singleton.mp shown
  · exact List.mem_singleton.mp shown

lemma forall_exitWarning {p : Effect → Prop} {exit : Exit}
    (ended : p (.logged (.serverEnded exit.result))) : ∀ effect ∈ exitWarning exit, p effect :=
  fun _ shown => eq_of_mem_exitWarning shown ▸ ended

lemma incidental_exitWarning (exit : Exit) : ∀ effect ∈ exitWarning exit, Incidental effect :=
  forall_exitWarning .serverEnded

lemma forall_forceKill {p : Effect → Prop} {pid : Nat} {kill : Except String Unit}
    (killed : p (.serverKilled pid)) (failed : ∀ cause, p (.logged (.killFailed cause))) :
    ∀ effect ∈ forceKill pid kill, p effect := by
  intro effect shown
  unfold forceKill at shown
  split at shown
  · contradiction
  · rcases List.mem_cons.mp shown with rfl | shown
    · exact killed
    · cases kill with
      | ok => contradiction
      | error reason =>
        obtain rfl := List.mem_singleton.mp shown
        exact failed _

lemma incidental_forceKill (pid : Nat) (kill : Except String Unit) :
    ∀ effect ∈ forceKill pid kill, Incidental effect :=
  forall_forceKill .serverKilled fun _ => .killFailed

/-- What is seen of the start of processes beside the server. -/
inductive Outfitting : Effect → Prop
  | configWritten {options} : Outfitting (.configWritten options)
  | childStarted {child spec} : Outfitting (.childStarted child spec)
  | trackerRefused {cause} : Outfitting (.logged (.trackerRefused cause))
  | trackerFailed {cause} : Outfitting (.logged (.trackerFailed cause))
  | commandFailed {command cause} : Outfitting (.logged (.commandFailed command cause))
  | commandsDeprecated : Outfitting (.logged .commandsDeprecated)
  | directoryUnknown {fallback} : Outfitting (.logged (.directoryUnknown fallback))

lemma Outfitting.incidental {effect : Effect} (outfitting : Outfitting effect) :
    Incidental effect := by
  cases outfitting <;> constructor

lemma outfitting_startChild (plugin : Plugin) (fallback : Path) {failure : ProcessError → LogEntry}
    (harmless : ∀ e, Outfitting (.logged (failure e))) :
    ∀ effect ∈ (s.startChild env plugin fallback failure).2, Outfitting effect := by
  intro effect shown
  have warned : ∀ entry ∈
      (s.shared.children.start env.workingDir env.start plugin fallback).1.warnings,
      entry = .directoryUnknown fallback := by
    intro entry warned
    unfold Children.start at warned
    split at warned
    · contradiction
    · dsimp only at warned
      split at warned <;> · split at warned <;> simp_all
  rcases List.mem_append.mp shown with warning | outcome
  · obtain ⟨entry, member, rfl⟩ := List.mem_map.mp warning
    rw [warned entry member]
    exact .directoryUnknown
  · obtain rfl := List.mem_singleton.mp outcome
    split
    · exact .childStarted
    · exact harmless _

lemma outfitting_startTracker (dir : Path) (options : ServerOptions) :
    ∀ effect ∈ (s.startTracker env dir options).2, Outfitting effect := by
  intro effect shown
  unfold startTracker at shown
  split at shown
  · split at shown
    · split at shown
      · obtain rfl := List.mem_singleton.mp shown
        exact .trackerRefused
      · rcases List.mem_cons.mp shown with rfl | shown
        · exact .configWritten
        · exact outfitting_startChild _ _ (fun _ => .trackerFailed) effect shown
    · contradiction
  · contradiction

lemma outfitting_startCommand (dir : Path) (line : String) :
    ∀ effect ∈ (s.startCommand env dir line).2, Outfitting effect := by
  intro effect shown
  unfold startCommand at shown
  split at shown
  · contradiction
  · exact outfitting_startChild _ _ (fun _ => .commandFailed) effect shown

lemma AuxiliaryStart.outfitting {stage : LaunchStage} {children : Children}
    (start : AuxiliaryStart s env l stage children more) : ∀ effect ∈ more, Outfitting effect := by
  cases start with
  | tracker => exact outfitting_startTracker _ _
  | plugin => exact outfitting_startChild _ _ fun _ => .commandFailed
  | lastPlugin =>
    intro effect shown
    split at shown
    · contradiction
    · obtain rfl := List.mem_singleton.mp shown
      exact .commandsDeprecated
  | command => exact outfitting_startCommand _ _
  | lastCommand =>
    intro effect shown
    contradiction

lemma AuxiliaryStart.incidental {stage : LaunchStage} {children : Children}
    (start : AuxiliaryStart s env l stage children more) : ∀ effect ∈ more, Incidental effect :=
  fun effect shown => (start.outfitting effect shown).incidental

/-- The kill of a process is shown, and at most a failure of it besides. -/
lemma mem_killChild {child : Child} {effect : Effect} (shown : effect ∈ killChild env child) :
    effect = .childKilled child ∨
      ∃ cause, effect = .logged (.childNotKilled child.name child.pid cause) := by
  unfold killChild at shown
  split at shown
  · exact .inl (List.mem_singleton.mp shown)
  · rcases List.mem_cons.mp shown with killed | complaint
    · exact .inl killed
    · exact .inr ⟨_, List.mem_singleton.mp complaint⟩

lemma forall_kills {p : Effect → Prop} {children : List Child} (begun : p (.killing children))
    (killed : ∀ child, p (.childKilled child))
    (failed : ∀ name pid cause, p (.logged (.childNotKilled name pid cause))) :
    ∀ effect ∈ .killing children :: children.flatMap (killChild env), p effect := by
  intro effect shown
  rcases List.mem_cons.mp shown with rfl | shown
  · exact begun
  · obtain ⟨child, -, shown⟩ := List.mem_flatMap.mp shown
    rcases mem_killChild shown with rfl | ⟨cause, rfl⟩
    · exact killed child
    · exact failed _ _ _

lemma forall_killing {p : Effect → Prop} {children : List Child} (begun : p (.killing children))
    (killed : ∀ child, p (.childKilled child)) (harmless : ∀ effect, Incidental effect → p effect) :
    ∀ effect ∈ .killing children :: children.flatMap (killChild env), p effect :=
  forall_kills begun killed fun _ _ _ => harmless _ .childNotKilled

lemma signal_snd (number : Nat) :
    (s.signal number).2 = [] ∨ (s.signal number).2 = [.signalled number] := by
  unfold signal
  split
  · exact .inl rfl
  · dsimp only
    split
    · exact .inl rfl
    · exact .inr rfl

lemma forall_signal {p : Effect → Prop} {number : Nat} (signalled : p (.signalled number)) :
    ∀ effect ∈ (s.signal number).2, p effect := by
  rcases s.signal_snd number with none | one
  · simp [none]
  · simpa [one] using signalled

/-- What tells nothing of sessions, of states or of the requests that are taken. -/
inductive Minor : Effect → Prop
  | incidental {effect} : Incidental effect → Minor effect
  | aside {effect} : Aside effect → Minor effect
  | answered {ticket result isHeard} : Minor (.answered ticket result isHeard)
  | finished : Minor .finished

lemma Minor.of_incidental (incidental : ∀ effect ∈ more, Incidental effect) :
    ∀ effect ∈ more, Minor effect :=
  fun effect shown => .incidental (incidental effect shown)

lemma Beside.minor (beside : s.Beside t more) : ∀ effect ∈ more, Minor effect :=
  fun effect shown => .aside (beside.aside effect shown)

/-- What goes on after a stop changes nothing but where the loop stands and who listens. -/
lemma finishStop_fst (s : System) (purpose : Purpose) :
    ∃ phase listening, (s.finishStop purpose).1 = { s with phase, listening } := by
  cases purpose <;> exact ⟨_, _, rfl⟩

lemma resume_fst (s : System) (next : Resumption) :
    ∃ phase listening, (s.resume next).1 = { s with phase, listening } := by
  cases next with
  | finishStop purpose => exact finishStop_fst s purpose
  | wait | keepStopping => exact ⟨_, _, rfl⟩

lemma Occasion.fst {purpose : Purpose} {before : List Effect}
    (occasion : Occasion s u purpose before) : ∃ requests, u = { s with requests } := by
  cases occasion <;> exact ⟨_, rfl⟩

/-- Where there is nothing to stop, the loop goes on at once. -/
lemma Occasion.finishStop_fst {purpose : Purpose} {before : List Effect}
    (occasion : Occasion s u purpose before) :
    ∃ requests phase listening,
      (u.finishStop purpose).1 = { s with requests, phase, listening } := by
  obtain ⟨requests, rfl⟩ := occasion.fst
  obtain ⟨phase, listening, finished⟩ := System.finishStop_fst { s with requests } purpose
  exact ⟨requests, phase, listening, finished⟩

/-- What a teardown leaves when it has come to its end. -/
lemma tearDown_fst (s : System) (next : Resumption) :
    ∃ phase listening,
      ({ s with machine := .idle, published := .idle, session := none }.resume next).1 =
        { s with
          machine := .idle, published := .idle, session := none, phase := phase
          listening := listening } :=
  resume_fst _ next

lemma forall_finishStop {p : Effect → Prop} {purpose : Purpose}
    (answered : ∀ ticket isHeard, p (.answered ticket (.ok ()) isHeard))
    (finished : p .finished) : ∀ effect ∈ (s.finishStop purpose).2, p effect := by
  cases purpose with
  | stop ticket => simpa [finishStop, answer] using answered ..
  | relaunch ticket event addressing => simp [finishStop]
  | shutdown => simpa [finishStop] using finished

lemma forall_resume {p : Effect → Prop} {next : Resumption}
    (answered : ∀ ticket isHeard, p (.answered ticket (.ok ()) isHeard))
    (finished : p .finished) : ∀ effect ∈ (s.resume next).2, p effect := by
  cases next with
  | finishStop purpose => exact forall_finishStop answered finished
  | wait | keepStopping => simp [resume]

lemma minor_finishStop (purpose : Purpose) : ∀ effect ∈ (s.finishStop purpose).2, Minor effect :=
  forall_finishStop (fun _ _ => .answered) .finished

lemma minor_resume (next : Resumption) : ∀ effect ∈ (s.resume next).2, Minor effect :=
  forall_resume (fun _ _ => .answered) .finished

/-- What is seen of the loop while it does not launch. -/
inductive Errand : Effect → Prop
  | took {request} : Errand (.took request)
  | answered {ticket result isHeard} : Errand (.answered ticket result isHeard)
  | published {source target} : Errand (.published source target)
  | serverEnded {result} : Errand (.logged (.serverEnded result))
  | stopFailed {cause} : Errand (.logged (.stopFailed cause))
  | shutdownFailed {cause} : Errand (.logged (.shutdownFailed cause))
  | killFailed {cause} : Errand (.logged (.killFailed cause))
  | childNotKilled {name pid cause} : Errand (.logged (.childNotKilled name pid cause))
  | relayClosed {relay} : Errand (.relayClosed relay)
  | cancelled {generation} : Errand (.cancelled generation)
  | serverKilled {pid} : Errand (.serverKilled pid)
  | exitHandled {generation isStale} : Errand (.exitHandled generation isStale)
  | wrapperStopped : Errand .wrapperStopped
  | killing {children} : Errand (.killing children)
  | childKilled {child} : Errand (.childKilled child)
  | signalling {channels} : Errand (.signalling channels)
  | signalled {channel} : Errand (.signalled channel)
  | tornDown {generation} : Errand (.tornDown generation)
  | finished : Errand .finished

/-- A turn that is not part of a launch leaves what is remembered of launches, and may begin one. -/
structure Outside (s t : System) (more : List Effect) : Prop where
  lastEvent : t.shared.lastEvent = s.shared.lastEvent
  addressing : t.shared.addressing = s.shared.addressing
  begins : ∀ l, t.phase = .launching l → l.stage = .announce
  shown : ∀ effect ∈ more, Errand effect

lemma Occasion.errand {purpose : Purpose} {before : List Effect}
    (occasion : Occasion s u purpose before) : ∀ effect ∈ before, Errand effect := by
  cases occasion with
  | request => simpa using Errand.took
  | shutdown => simp

lemma outside_finishStop (purpose : Purpose) :
    Outside s (s.finishStop purpose).1 (s.finishStop purpose).2 where
  lastEvent := by cases purpose <;> rfl
  addressing := by cases purpose <;> rfl
  begins l phase := by
    cases purpose with
    | relaunch =>
      cases phase
      rfl
    | stop | shutdown => simp [finishStop, answer, enter] at phase
  shown := forall_finishStop (fun _ _ => .answered) .finished

lemma outside_resume (next : Resumption) : Outside s (s.resume next).1 (s.resume next).2 := by
  cases next with
  | finishStop purpose => exact outside_finishStop purpose
  | wait | keepStopping => exact ⟨rfl, rfl, by simp [resume, enter], by simp [resume]⟩

lemma Turn.outside (turn : s.Turn t more) (idle : ∀ l, s.phase ≠ .launching l) :
    Outside s t more := by
  cases turn with
  | announce phase | findDirectory phase | loadOptions phase | openRelay phase | startServer phase
  | fail phase | adopt phase | requestWrapper phase | auxiliary phase | activate phase =>
    exact absurd phase (idle _)
  | @beginVacant u purpose before phase quiet session occasion =>
    have finished := u.outside_finishStop purpose
    obtain ⟨_, rfl⟩ := occasion.fst
    exact ⟨finished.lastEvent, finished.addressing, finished.begins,
      List.forall_mem_append.mpr ⟨occasion.errand, finished.shown⟩⟩
  | beginStop now phase quiet session occasion =>
    have before := occasion.errand
    obtain ⟨_, rfl⟩ := occasion.fst
    refine ⟨rfl, rfl, nofun, List.forall_mem_append.mpr ⟨before, ?_⟩⟩
    refine List.forall_mem_cons.mpr ⟨.cancelled, ?_⟩
    split
    · simpa using Errand.published
    · simp
  | exit =>
    refine ⟨rfl, rfl, nofun, List.forall_mem_append.mpr ⟨forall_exitWarning .serverEnded, ?_⟩⟩
    simpa using ⟨Errand.published, Errand.exitHandled⟩
  | staleExit =>
    refine ⟨rfl, rfl, fun l phase => absurd phase (idle l),
      List.forall_mem_append.mpr ⟨forall_exitWarning .serverEnded, ?_⟩⟩
    simpa using Errand.exitHandled
  | kill => exact ⟨rfl, rfl, nofun, forall_forceKill .serverKilled fun _ => .killFailed⟩
  | giveUp => exact ⟨rfl, rfl, nofun, by simpa using ⟨Errand.stopFailed, Errand.answered⟩⟩
  | leave =>
    refine ⟨rfl, rfl, nofun, ?_⟩
    simpa using ⟨Errand.stopFailed, Errand.shutdownFailed, Errand.relayClosed, Errand.finished⟩
  | forget | signalled => exact ⟨rfl, rfl, nofun, by simp⟩
  | closeRelay => exact ⟨rfl, rfl, nofun, by simpa using Errand.relayClosed⟩
  | stopWrapper =>
    refine ⟨rfl, rfl, nofun, ?_⟩
    split
    · simpa using Errand.wrapperStopped
    · simp
  | killChildren =>
    exact ⟨rfl, rfl, nofun, forall_kills .killing (fun _ => .childKilled)
      fun _ _ _ => .childNotKilled⟩
  | prune => exact ⟨rfl, rfl, nofun, by simpa using Errand.signalling⟩
  | signal => exact ⟨rfl, rfl, nofun, forall_signal .signalled⟩
  | @tearDown x next =>
    have resumed : Outside { s with machine := .idle, published := .idle, session := none } _ _ :=
      outside_resume next
    exact ⟨resumed.lastEvent, resumed.addressing, resumed.begins, List.forall_mem_cons.mpr
      ⟨.published, List.forall_mem_cons.mpr ⟨.tornDown, resumed.shown⟩⟩⟩

lemma minor_destroy : ∀ effect ∈ s.destroy.2, Minor effect := by
  intro effect shown
  obtain ⟨ticket, -, rfl⟩ := List.mem_map.mp shown
  exact .answered

/-- What is seen only where a stop has run out of time. -/
inductive Belated : Effect → Prop
  | refused {ticket isHeard} : Belated (.answered ticket (.error .stopTimeout) isHeard)
  | shutdownFailed {cause} : Belated (.logged (.shutdownFailed cause))

/-- A stop that runs out of time is given up, with the session or with the loop itself. -/
lemma Turn.belated (turn : s.Turn t more) {effect : Effect} (shown : effect ∈ more)
    (belated : Belated effect) :
    (∃ stop, s.phase = .stopping stop) ∧
      ((∃ ticket isHeard, effect = .answered ticket (.error .stopTimeout) isHeard) ∧
          t.phase = .waiting ∨ t.phase = .finished) := by
  have timely (none : ∀ effect ∈ more, ¬Belated effect) :
      (∃ stop, s.phase = .stopping stop) ∧
        ((∃ ticket isHeard, effect = .answered ticket (.error .stopTimeout) isHeard) ∧
          t.phase = .waiting ∨ t.phase = .finished) :=
    absurd belated (none effect shown)
  have resumed (u : System) (next : Resumption) :
      ∀ effect ∈ (u.resume next).2, ¬Belated effect :=
    forall_resume nofun nofun
  cases turn with
  | fail phase failure =>
    refine timely ?_
    cases failure <;> rintro _ shown ⟨⟩ <;> simp at shown
  | auxiliary phase start =>
    refine timely fun effect shown belated => ?_
    cases belated <;> cases start.outfitting _ shown
  | beginVacant phase quiet session occasion =>
    refine timely (List.forall_mem_append.mpr ⟨?_, resumed _ (.finishStop _)⟩)
    cases occasion <;> rintro _ shown ⟨⟩ <;> simp at shown
  | beginStop now phase quiet session occasion =>
    refine timely ?_
    cases occasion <;> split <;> rintro _ shown ⟨⟩ <;> simp at shown
  | exit | staleExit =>
    refine timely (List.forall_mem_append.mpr ⟨forall_exitWarning nofun, ?_⟩)
    rintro _ shown ⟨⟩ <;> simp at shown
  | kill => exact timely (forall_forceKill nofun nofun)
  | giveUp phase =>
    refine ⟨⟨_, phase⟩, .inl ⟨?_, rfl⟩⟩
    cases belated with
    | refused =>
      obtain ⟨rfl, rfl⟩ : _ = _ ∧ _ = _ := by simpa using shown
      exact ⟨_, _, rfl⟩
    | shutdownFailed => simp at shown
  | leave phase => exact ⟨⟨_, phase⟩, .inr rfl⟩
  | stopWrapper =>
    refine timely ?_
    split <;> rintro _ shown ⟨⟩ <;> simp at shown
  | killChildren => exact timely (forall_kills nofun nofun nofun)
  | signal => exact timely (forall_signal nofun)
  | tearDown =>
    exact timely (List.forall_mem_cons.mpr ⟨nofun, List.forall_mem_cons.mpr
      ⟨nofun, resumed _ _⟩⟩)
  | announce | findDirectory | loadOptions | openRelay | startServer | adopt | requestWrapper
  | activate | forget | closeRelay | prune | signalled =>
    exact timely (by rintro _ shown ⟨⟩ <;> simp at shown)

end System
end RaceControl
