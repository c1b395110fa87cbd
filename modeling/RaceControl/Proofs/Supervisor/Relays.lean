import RaceControl.Proofs.Supervisor.Moorings

/-!
At most one relay is open at a time: the one of the session, or the one with which a launch or a
teardown is busy.
-/
namespace RaceControl

/-- Among all relays ever opened, just the one with this number is open. -/
def Custody (relays : List Relay) (inUse : Option Nat) : Prop :=
  ∀ n, relays[n]?.any (·.isOpen) = true ↔ inUse = some n

namespace Custody
variable {relays : List Relay} {relay : Relay} {n : Nat}

lemma closed (custody : Custody relays none) : ∀ relay ∈ relays, relay.isOpen = false := by
  intro relay member
  obtain ⟨n, found⟩ := List.mem_iff_getElem?.mp member
  by_contra isOpen
  have impossible := (custody n).mp (by simpa [found] using isOpen)
  contradiction

lemma take (custody : Custody relays none) (isOpen : relay.isOpen = true) :
    Custody (relays ++ [relay]) (some relays.length) := by
  intro n
  rcases Nat.lt_trichotomy n relays.length with known | rfl | new
  · rw [List.getElem?_append_left known]
    simpa [Nat.ne_of_gt known] using custody n
  · simp [isOpen]
  · have beyond : (relays ++ [relay]).length ≤ n := by
      rw [List.length_append, List.length_singleton]
      omega
    simp [List.getElem?_eq_none beyond, Nat.ne_of_lt new]

lemma close (custody : Custody relays (some n)) : Custody (relays.set n relay.close) none := by
  intro m
  by_cases same : n = m
  · subst same
    by_cases known : n < relays.length
    · simp [List.getElem?_set_self known, Relay.close]
    · have beyond : (relays.set n relay.close).length ≤ n := by simpa using known
      simp [List.getElem?_eq_none beyond]
  · rw [List.getElem?_set_ne same]
    simpa [same] using custody m

end Custody

/-- The relay that is in use, whether or not callers see it. -/
def System.inUse? (s : System) : Option Nat :=
  match s.phase with
  | .launching l =>
    match l.stage with
    | .startServer _ _ n | .adopt _ _ n _ => some n
    | _ => s.shared.relay
  | .tearingDown (.closeRelay relay) _ => relay
  | .finished => none
  | _ => s.shared.relay

namespace System
variable {s t u : System} {seen more : List Effect}

lemma inUse?_finishStop (vacant : u.shared.relay = none) (purpose : Purpose) :
    (u.finishStop purpose).1.inUse? = none := by
  cases purpose <;> first | exact vacant | rfl

lemma inUse?_resume (vacant : u.shared.relay = none) (next : Resumption) :
    (u.resume next).1.inUse? = none := by
  cases next with
  | finishStop purpose => exact inUse?_finishStop vacant purpose
  | wait | keepStopping => exact vacant

lemma Turn.custody (turn : s.Turn t more) (coherent : s.Coherent)
    (custody : Custody s.relays s.inUse?) : Custody t.relays t.inUse? := by
  have fits := coherent.phase
  have keeps (relays : t.relays = s.relays) (inUse : t.inUse? = s.inUse?) :
      Custody t.relays t.inUse? := by
    rwa [relays, inUse]
  cases turn with
  | announce phase stage | findDirectory phase stage | loadOptions phase stage
  | startServer phase stage | requestWrapper phase stage | activate phase stage =>
    exact keeps rfl (by simp [inUse?, phase, stage])
  | openRelay phase stage opened =>
    simp only [PhaseFits, phase, LaunchFits, stage] at fits
    simp only [inUse?, phase, stage, fits.2.1.relay] at custody
    exact custody.take (Relay.isOpen_of_open? opened)
  | fail phase failure =>
    cases failure with
    | directory stage | options stage | relay stage =>
      exact keeps rfl (by simp [inUse?, phase, stage])
    | server stage =>
      simp only [PhaseFits, phase, LaunchFits, stage] at fits
      simp only [inUse?, phase, stage, fits.2.1.relay] at custody ⊢
      exact custody.close
  | adopt phase stage => exact keeps rfl (by simp [inUse?, phase, stage])
  | auxiliary phase start =>
    cases start with
    | tracker stage | plugin stage | lastPlugin stage | command stage | lastCommand stage =>
      exact keeps rfl (by simp [inUse?, phase, stage])
  | @beginVacant u purpose before phase quiet session occasion =>
    obtain ⟨requests, rfl⟩ := occasion.fst
    obtain ⟨_, _, finished⟩ := finishStop_fst { s with requests } purpose
    simp only [PhaseFits, phase] at fits
    rcases fits with ⟨-, vacant⟩ | ⟨-, x, e, n, occupied, -⟩
    · have free := inUse?_finishStop (u := { s with requests }) vacant.relay purpose
      exact keeps (by rw [finished]) (free.trans (by simp [inUse?, phase, vacant.relay]))
    · rw [occupied.session] at session
      contradiction
  | beginStop now phase quiet session occasion =>
    obtain ⟨_, rfl⟩ := occasion.fst
    exact keeps rfl (by simp [inUse?, phase])
  | exit attends =>
    refine keeps rfl ?_
    cases attends with
    | waiting phase | stopping phase => simp [inUse?, phase]
  | staleExit => exact keeps rfl rfl
  | kill phase | giveUp phase | forget phase | stopWrapper phase | killChildren env phase
  | prune phase | signal phase | signalled phase =>
    exact keeps rfl (by simp [inUse?, phase])
  | leave phase quiet late tried purpose relay =>
    simp only [inUse?, phase, relay] at custody
    exact custody.close
  | closeRelay phase =>
    simp only [PhaseFits, phase, TeardownFits] at fits
    obtain ⟨-, ⟨⟨x, leaving⟩, -⟩, -⟩ := fits
    simp only [inUse?, phase] at custody
    simp only [inUse?, leaving.relay]
    exact custody.close
  | @tearDown x next phase session =>
    simp only [PhaseFits, phase, TeardownFits] at fits
    obtain ⟨-, ⟨⟨y, leaving⟩, -⟩, -⟩ := fits
    let rest : System := { s with machine := .idle, published := .idle, session := none }
    obtain ⟨_, _, resumed⟩ := resume_fst rest next
    have free := inUse?_resume (u := rest) leaving.relay next
    exact keeps (by rw [resumed]) (free.trans (by simp [inUse?, phase, leaving.relay]))

variable {settings : Settings} {collaborators : Collaborators}

/-- Until the loop is destroyed only the relay in use is open. -/
lemma Run.custody (run : Run (fresh settings collaborators) s seen)
    (alive : s.phase ≠ .destroyed) : Custody s.relays s.inUse? := by
  refine run.keeps_alive (P := fun s _ => Custody s.relays s.inUse?)
    (by simp [Custody, fresh, inUse?, Shared.fresh]) ?_ alive
  intro s t seen more i run custody move alive
  have beside (beside : s.Beside t more) : Custody t.relays t.inUse? := by
    have same : t.inUse? = s.inUse? := by
      simp only [inUse?, beside.phase, beside.relay]
    rwa [same, beside.relays]
  cases move with
  | turn own turn => exact turn.custody run.coherent custody
  | enter | refuse | hangUp | report => exact custody
  | notice member racing aside => exact beside aside
  | apart detached apart => exact beside apart.toBeside
  | destroy => exact absurd rfl alive

end System
end RaceControl
