import RaceControl.Proofs.Supervisor.Effects

/-!
What an observer of a supervisor can rely on at every moment: event, relay, addressing and children
belong together, to the state that is published, and to the request that launched the session.
-/
namespace RaceControl

/-- What a history tells of requests: the one taken last, and the one that had been taken when a
session was last launched. -/
structure Ledger where
  taken : Option Request
  launched : Option Request
  deriving DecidableEq, Repr, Inhabited

namespace Ledger

def record (ledger : Ledger) : Effect → Ledger
  | .took request => { ledger with taken := some request }
  | .launched _ => { ledger with launched := ledger.taken }
  | _ => ledger

def ofHistory (seen : List Effect) : Ledger := seen.foldl record ⟨none, none⟩

lemma ofHistory_append (seen more : List Effect) :
    ofHistory (seen ++ more) = more.foldl record (ofHistory seen) :=
  List.foldl_append

/-- Whether an effect leaves a ledger as it is. -/
def Skips (effect : Effect) : Prop := ∀ ledger : Ledger, ledger.record effect = ledger

lemma skips_of_minor {effect : Effect} (minor : System.Minor effect) : Skips effect := by
  intro ledger
  cases minor with
  | incidental incidental => cases incidental <;> rfl
  | aside aside => cases aside <;> rfl
  | answered | finished => rfl

lemma foldl_of_skips {more : List Effect} (skips : ∀ effect ∈ more, Skips effect)
    (ledger : Ledger) : more.foldl record ledger = ledger := by
  induction more with
  | nil => rfl
  | cons effect rest ih =>
    rw [List.foldl_cons, skips effect (List.mem_cons_self ..)]
    exact ih fun effect member => skips effect (List.mem_cons_of_mem _ member)

lemma foldl_of_minor {more : List Effect} (minor : ∀ effect ∈ more, System.Minor effect)
    (ledger : Ledger) : more.foldl record ledger = ledger :=
  foldl_of_skips (fun effect shown => skips_of_minor (minor effect shown)) ledger

end Ledger

/-- A stop is made for the request taken last, or once all handles are gone. -/
def Purpose.Due (taken : Option Request) (handles : Nat) : Purpose → Prop
  | .stop ticket => taken = some ⟨ticket, .stop⟩
  | .relaunch ticket event addressing => taken = some ⟨ticket, .start event addressing⟩
  | .shutdown => handles = 0

def Resumption.Due (taken : Option Request) (handles : Nat) : Resumption → Prop
  | .finishStop purpose => purpose.Due taken handles
  | _ => True

lemma Request.purpose_due (request : Request) (handles : Nat) :
    request.purpose.Due (some request) handles := by
  obtain ⟨ticket, demand⟩ := request
  cases demand <;> rfl

namespace System
variable {s t u : System} {seen more : List Effect}

/-- What the loop does is what it was asked for last. -/
def PhaseStems (s : System) (taken : Option Request) : Prop :=
  match s.phase with
  | .launching l => taken = some ⟨l.ticket, .start l.event l.addressing⟩
  | .stopping stop => stop.purpose.Due taken s.handles
  | .tearingDown _ next => next.Due taken s.handles
  | .finished => s.handles = 0
  | _ => True

/-- The session stems from a request, and so does what the loop is about to do. -/
structure Stems (s : System) (ledger : Ledger) : Prop where
  phase : s.PhaseStems ledger.taken
  event : ∀ e, s.shared.event = some e →
    ∃ ticket, ledger.launched = some ⟨ticket, .start e s.shared.addressing⟩

lemma stems_finishStop {purpose : Purpose} {ledger : Ledger}
    (due : purpose.Due ledger.taken u.handles) (event : u.shared.event = none) :
    (u.finishStop purpose).1.Stems ledger := by
  have vacant : ∀ e, u.shared.event = some e →
      ∃ ticket, ledger.launched = some ⟨ticket, .start e u.shared.addressing⟩ := by simp [event]
  cases purpose with
  | stop ticket => exact ⟨trivial, vacant⟩
  | relaunch ticket e addressing => exact ⟨due, vacant⟩
  | shutdown => exact ⟨due, vacant⟩

lemma stems_resume {next : Resumption} {ledger : Ledger}
    (due : next.Due ledger.taken u.handles) (final : next.IsFinal) (event : u.shared.event = none) :
    (u.resume next).1.Stems ledger := by
  cases next with
  | wait => exact ⟨trivial, by simp [resume, enter, event]⟩
  | finishStop purpose => exact stems_finishStop due event
  | keepStopping stop => exact final.elim

lemma Attends.due {next : Resumption} {taken : Option Request} (attends : s.Attends next)
    (origin : s.PhaseStems taken) : next.Due taken s.handles := by
  cases attends with
  | waiting phase => trivial
  | stopping phase => simpa only [PhaseStems, phase, Resumption.Due] using origin

/-- What is due after an occasion has been taken. -/
lemma Occasion.due {purpose : Purpose} {before : List Effect} {ledger : Ledger}
    (occasion : Occasion s u purpose before) :
    purpose.Due (before.foldl Ledger.record ledger).taken u.handles := by
  cases occasion with
  | @request request requests queue => exact request.purpose_due _
  | shutdown queue handles => exact handles

lemma Occasion.launched {purpose : Purpose} {before : List Effect} {ledger : Ledger}
    (occasion : Occasion s u purpose before) :
    (before.foldl Ledger.record ledger).launched = ledger.launched := by
  cases occasion <;> rfl

lemma Turn.stems {ledger : Ledger} (turn : s.Turn t more) (coherent : s.Coherent)
    (stems : s.Stems ledger) : t.Stems (more.foldl Ledger.record ledger) := by
  have ⟨origin, event⟩ := stems
  have fits := coherent.phase
  cases turn with
  | announce phase stage | findDirectory phase stage found | openRelay phase stage opened
  | startServer phase stage started | requestWrapper phase stage =>
    simp only [PhaseStems, phase] at origin
    exact ⟨origin, event⟩
  | loadOptions phase stage found =>
    simp only [PhaseStems, phase] at origin
    simp only [PhaseFits, phase, LaunchFits, stage] at fits
    exact ⟨origin, by simp [fits.2.event]⟩
  | fail phase failure =>
    cases failure <;> exact ⟨trivial, event⟩
  | adopt phase stage =>
    simp only [PhaseStems, phase] at origin
    simp only [PhaseFits, phase, LaunchFits, stage] at fits
    obtain ⟨-, -, addressing, -⟩ := fits
    refine ⟨origin, ?_⟩
    rintro e ⟨⟩
    rw [← addressing] at origin
    exact ⟨_, origin⟩
  | auxiliary phase start =>
    simp only [PhaseStems, phase] at origin
    rw [Ledger.foldl_of_minor (.of_incidental start.incidental)]
    exact ⟨origin, event⟩
  | activate phase stage => exact ⟨trivial, event⟩
  | beginVacant phase quiet session occasion =>
    rw [List.foldl_append, Ledger.foldl_of_minor (minor_finishStop _)]
    refine stems_finishStop occasion.due ?_
    simp only [PhaseFits, phase] at fits
    rcases fits with ⟨-, vacant⟩ | ⟨-, x, e, n, occupied, -⟩
    · cases occasion <;> exact vacant.event
    · rw [occupied.session] at session
      contradiction
  | @beginStop u purpose before x now phase quiet session occasion =>
    have shared : u.shared = s.shared := by cases occasion <;> rfl
    have skips : ∀ effect ∈ .cancelled x.generation ::
        (if s.machine = .active then [Effect.published .active .stopping] else []),
        Ledger.Skips effect := by
      split <;> simp [Ledger.Skips, Ledger.record]
    rw [List.foldl_append, Ledger.foldl_of_skips skips]
    refine ⟨occasion.due, ?_⟩
    rw [occasion.launched]
    simpa only [shared] using event
  | exit attends queue session generation =>
    rw [List.foldl_append, Ledger.foldl_of_minor (.of_incidental (incidental_exitWarning _))]
    exact ⟨attends.due origin, event⟩
  | staleExit attends queue stale =>
    rw [List.foldl_append, Ledger.foldl_of_minor (.of_incidental (incidental_exitWarning _))]
    exact ⟨origin, event⟩
  | kill phase quiet fresh grace =>
    simp only [PhaseStems, phase] at origin
    rw [Ledger.foldl_of_minor (.of_incidental (incidental_forceKill _ _))]
    exact ⟨origin, event⟩
  | giveUp phase quiet late tried purpose => exact ⟨trivial, event⟩
  | leave phase quiet late tried purpose relay found =>
    simp only [PhaseStems, phase, purpose] at origin
    exact ⟨origin, event⟩
  | forget phase =>
    simp only [PhaseStems, phase] at origin
    exact ⟨origin, by simp⟩
  | closeRelay phase found =>
    simp only [PhaseStems, phase] at origin
    exact ⟨origin, event⟩
  | stopWrapper phase =>
    simp only [PhaseStems, phase] at origin
    split <;> exact ⟨origin, event⟩
  | killChildren env phase =>
    simp only [PhaseStems, phase] at origin
    have skips effect (incidental : Incidental effect) : Ledger.Skips effect :=
      Ledger.skips_of_minor (.incidental incidental)
    rw [Ledger.foldl_of_skips (forall_killing (fun _ => rfl) (fun _ _ => rfl) skips)]
    exact ⟨origin, event⟩
  | prune phase =>
    simp only [PhaseStems, phase] at origin
    exact ⟨origin, event⟩
  | @signal number rest next phase =>
    simp only [PhaseStems, phase] at origin
    rcases s.signal_snd number with none | one
    · rw [none]
      exact ⟨origin, event⟩
    · rw [one]
      exact ⟨origin, event⟩
  | signalled phase =>
    simp only [PhaseStems, phase] at origin
    exact ⟨origin, event⟩
  | tearDown phase session =>
    simp only [PhaseStems, phase] at origin
    simp only [PhaseFits, phase, TeardownFits] at fits
    obtain ⟨-, ⟨⟨x, leaving⟩, -⟩, final⟩ := fits
    rw [List.foldl_cons, List.foldl_cons, Ledger.foldl_of_minor (minor_resume _)]
    exact stems_resume origin final leaving.event

lemma Beside.stems {ledger : Ledger} (beside : s.Beside t more) (stems : s.Stems ledger) :
    t.Stems (more.foldl Ledger.record ledger) := by
  rw [Ledger.foldl_of_minor beside.minor]
  refine ⟨?_, by simpa only [beside.event, beside.addressing] using stems.event⟩
  have origin := stems.phase
  have due (purpose : Purpose) (due : purpose.Due ledger.taken s.handles) :
      purpose.Due ledger.taken t.handles := by
    cases purpose with
    | stop | relaunch => exact due
    | shutdown => exact beside.handles due
  unfold PhaseStems at origin ⊢
  rw [beside.phase]
  split at origin
  case h_1 => exact origin
  case h_2 stop phase => exact due stop.purpose origin
  case h_3 stage next phase =>
    cases next with
    | finishStop purpose => exact due purpose origin
    | wait | keepStopping => trivial
  case h_4 => exact beside.handles origin
  case h_5 => trivial

lemma Run.stems {settings : Settings} {collaborators : Collaborators}
    (run : Run (fresh settings collaborators) s seen) : s.Stems (.ofHistory seen) := by
  have kept := run.keeps (coherent_fresh settings collaborators)
    (P := fun s seen => s.Stems (.ofHistory seen)) ⟨trivial, by simp [fresh, Shared.fresh]⟩
    (fun coherent stems turn => by
      rw [Ledger.ofHistory_append]
      exact turn.stems coherent stems)
    (fun _ stems beside => by
      rw [Ledger.ofHistory_append]
      exact beside.stems stems)
    (fun {s} _ _ stems _ => by
      rw [Ledger.ofHistory_append, Ledger.foldl_of_minor minor_destroy]
      exact ⟨trivial, stems.event⟩)
  exact kept.2

/-- What an observer of a supervisor sees at any moment, given all that was seen before. -/
structure Sound (s : System) (seen : List Effect) : Prop where
  event_iff_relay : s.shared.event.isSome = s.shared.relay.isSome
  isOpen : s.phase ≠ .finished → ∀ n, s.shared.relay = some n → HasOpenRelay s.relays n
  /-- Once the loop has ended by itself, nobody is left to look. -/
  finished : s.phase = .finished → s.handles = 0
  lastEvent : ∀ e, s.shared.event = some e → s.shared.lastEvent = some e
  launched : ∀ e, s.shared.event = some e →
    ∃ ticket, (Ledger.ofHistory seen).launched = some ⟨ticket, .start e s.shared.addressing⟩
  running : s.published = .active ∨ s.published = .stopping →
    s.shared.event.isSome = true ∧ s.shared.relay.isSome = true
  idle : s.published = .idle →
    s.shared.event = none ∧ s.shared.relay = none ∧ s.shared.children.tracked = []
  /-- Between two requests the private session is there exactly if callers see one. -/
  waiting : s.phase = .waiting →
    (s.session.isSome = true ↔ s.shared.event.isSome = true) ∧
    (s.shared.event.isSome = true ↔ s.published = .active ∨ s.published = .stopping) ∧
    (s.session = none → s.published = .idle)

lemma Coherent.waiting (coherent : s.Coherent) (phase : s.phase = .waiting) :
    (s.session.isSome = true ↔ s.shared.event.isSome = true) ∧
    (s.shared.event.isSome = true ↔ s.published = .active ∨ s.published = .stopping) ∧
    (s.session = none → s.published = .idle) := by
  have fits := coherent.phase
  simp only [PhaseFits, phase] at fits
  rw [coherent.published]
  rcases fits with ⟨machine, vacant⟩ | ⟨machine, x, e, n, occupied, -⟩
  · simp [machine, vacant.session, vacant.event]
  · simp [machine, occupied.session, occupied.event]

theorem Run.sound {settings : Settings} {collaborators : Collaborators}
    (run : Run (fresh settings collaborators) s seen) : s.Sound seen := by
  have coherent := run.coherent
  have stems := run.stems
  have presentable := coherent.presentable
  refine ⟨presentable.relay_iff.symm, coherent.relayIsOpen, fun phase => ?_, presentable.lastEvent,
    stems.event, fun running => ?_, fun idle => ?_, coherent.waiting⟩
  · simpa only [PhaseStems, phase] using stems.phase
  · have event := presentable.running running
    exact ⟨event, presentable.relay_iff.trans event⟩
  · obtain ⟨event, children⟩ := presentable.idle idle
    have relay := presentable.relay_iff
    rw [event] at relay
    exact ⟨event, Option.isNone_iff_eq_none.mp (by simpa using relay), children⟩

/-- A session that has been launched is seen with the event and the addressing it was asked for. -/
theorem sound_launch :
    ∃ s seen, Run (fresh .standard ⟨false, false⟩) s seen ∧ s.Sound seen ∧
      s.published = .active ∧ s.shared.event = some ⟨"race"⟩ := by
  obtain ⟨⟨s, seen⟩, steps, active⟩ : ∃ out ∈ (fresh .standard ⟨false, false⟩).steps?
      (launchInputs ⟨1, .start ⟨"race"⟩ (.direct ":9000" 9001)⟩),
      out.1.published = .active ∧ out.1.shared.event = some ⟨"race"⟩ := by
    decide
  have run := Run.none.steps steps
  exact ⟨s, seen, run, run.sound, active⟩

end System
end RaceControl
