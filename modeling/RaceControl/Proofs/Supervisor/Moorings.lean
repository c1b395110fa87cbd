import RaceControl.Proofs.Relay.Opening
import RaceControl.Proofs.Supervisor.Effects
import RaceControl.Proofs.Supervisor.Passages

/-!
The relay that callers find. It has been opened for the addressing of the session that is there,
and whatever becomes of it later, its socket and its addresses stay what they were.
-/
namespace RaceControl

/-- The same relay later on. It may have been closed, and a closed one is not opened again. -/
structure Relay.Becomes (r later : Relay) : Prop where
  same : { later with isOpen := r.isOpen } = r
  isOpen : later.isOpen = true → r.isOpen = true

lemma Relay.Becomes.refl (r : Relay) : r.Becomes r := ⟨rfl, id⟩

lemma Relay.Becomes.trans {r later last : Relay} (first : r.Becomes later)
    (second : later.Becomes last) : r.Becomes last where
  same := by
    rw [← first.same, ← second.same]
  isOpen := first.isOpen ∘ second.isOpen

/-- What a step does with the relays: it opens one more or closes one, if anything. -/
inductive Refits (relays : List Relay) : List Relay → Prop
  | nothing : Refits relays relays
  | opens (relay) : Refits relays (relays ++ [relay])
  | closes {n relay} : relays[n]? = some relay →
    Refits relays (relays.set n { relay with isOpen := false })

lemma Refits.becomes {relays after : List Relay} {n : Nat} {relay : Relay}
    (refits : Refits relays after) (found : relays[n]? = some relay) :
    ∃ later, after[n]? = some later ∧ relay.Becomes later := by
  cases refits with
  | nothing => exact ⟨relay, found, .refl relay⟩
  | opens =>
    have known : n < relays.length := (List.getElem?_eq_some_iff.mp found).1
    exact ⟨relay, by rwa [List.getElem?_append_left known], .refl relay⟩
  | @closes m closed here =>
    by_cases same : m = n
    · subst same
      have known : m < relays.length := (List.getElem?_eq_some_iff.mp found).1
      obtain rfl := Option.some.inj (found.symm.trans here)
      exact ⟨_, List.getElem?_set_self known, rfl, Bool.noConfusion⟩
    · exact ⟨relay, by rwa [List.getElem?_set_ne same], .refl relay⟩

lemma Refits.any_isOpen {relays after : List Relay} {n : Nat} (refits : Refits relays after)
    (known : n < relays.length) (isOpen : after[n]?.any (·.isOpen) = true) :
    relays[n]?.any (·.isOpen) = true := by
  obtain ⟨later, here, becomes⟩ := refits.becomes (List.getElem?_eq_getElem known)
  rw [here] at isOpen
  rw [List.getElem?_eq_getElem known]
  exact becomes.isOpen isOpen

/-- The relay with which a launch is about to start and to adopt its server. -/
def Phase.relay? : Phase → Option Nat
  | .launching l =>
    match l.stage with
    | .startServer _ _ n | .adopt _ _ n _ => some n
    | _ => none
  | _ => none

namespace System
variable {s t u : System} {seen more : List Effect} {i : Input} {passed : List Transit}

lemma Turn.refits (turn : s.Turn t more) : Refits s.relays t.relays := by
  cases turn with
  | openRelay => exact .opens _
  | fail phase failure =>
    cases failure with
    | directory | options | relay => exact .nothing
    | server stage refused found => exact .closes found
  | leave phase quiet late tried purpose current found => exact .closes found
  | closeRelay phase found => exact .closes found
  | beginVacant phase quiet session occasion =>
    obtain ⟨_, _, _, finished⟩ := occasion.finishStop_fst
    rw [finished]
    exact .nothing
  | beginStop now phase quiet session occasion =>
    obtain ⟨_, rfl⟩ := occasion.fst
    exact .nothing
  | @tearDown x next =>
    obtain ⟨_, _, resumed⟩ := s.tearDown_fst next
    rw [resumed]
    exact .nothing
  | _ => exact .nothing

lemma step?_refits (coherent : s.Coherent) (step : s.step? i = some (t, more)) :
    Refits s.relays t.relays := by
  rcases step?_cases coherent step with turn | beside | ⟨-, -, destroyed⟩
  · exact turn.refits
  · exact beside.relays ▸ .nothing
  · cases destroyed
    exact .nothing

/-- A relay is found again by its number, as it was but for its closing. -/
lemma Passage.becomes {settings : Settings} {collaborators : Collaborators} {start : System}
    {n : Nat} {relay : Relay} (run : Run (fresh settings collaborators) start seen)
    (passage : Passage start s passed) (found : start.relay? n = some relay) :
    ∃ later, s.relay? n = some later ∧ relay.Becomes later := by
  induction passage with
  | none => exact ⟨relay, found, .refl relay⟩
  | step passage step ih =>
    obtain ⟨later, here, becomes⟩ := ih
    obtain ⟨last, there, onwards⟩ := (step?_refits (passage.run run).coherent step).becomes here
    exact ⟨last, there, becomes.trans onwards⟩

/-- The relays at hand: that of the session, and that of a launch under way. -/
def AtHand (s : System) (n : Nat) : Prop := s.shared.relay = some n ∨ s.phase.relay? = some n

/-- A relay that has been opened, as the last one so far, for the addressing that callers see. -/
structure Moored (s : System) (n : Nat) : Prop where
  newest : s.relays.length = n + 1
  opened : ∃ relay taken net, s.relay? n = some relay ∧
    Relay.Opens taken net s.shared.addressing (.ok { relay with isOpen := true })

lemma Moored.refit {n : Nat} (moored : s.Moored n) (refits : Refits s.relays t.relays)
    (length : t.relays.length = s.relays.length)
    (addressing : t.shared.addressing = s.shared.addressing) : t.Moored n := by
  obtain ⟨relay, taken, net, found, opens⟩ := moored.opened
  obtain ⟨later, again, becomes⟩ := refits.becomes found
  refine ⟨length.trans moored.newest, later, taken, net, again, ?_⟩
  have same : { later with isOpen := true } = { relay with isOpen := true } := by
    rw [← becomes.same]
  rwa [addressing, same]

lemma relay?_finishStop (purpose : Purpose) : (u.finishStop purpose).1.phase.relay? = none := by
  cases purpose <;> rfl

lemma relay?_resume (next : Resumption) : (u.resume next).1.phase.relay? = none := by
  cases next with
  | wait | keepStopping => rfl
  | finishStop purpose => exact relay?_finishStop purpose

lemma Turn.moored (turn : s.Turn t more) (coherent : s.Coherent)
    (moored : ∀ n, s.AtHand n → s.Moored n) : ∀ n, t.AtHand n → t.Moored n := by
  have fits := coherent.phase
  have keeps (hand : ∀ n, t.AtHand n → s.AtHand n) (length : t.relays.length = s.relays.length)
      (addressing : t.shared.addressing = s.shared.addressing) : ∀ n, t.AtHand n → t.Moored n :=
    fun n hold => (moored n (hand n hold)).refit turn.refits length addressing
  -- Most turns neither show callers another relay nor go about one of their own.
  have rests (relay : t.shared.relay = s.shared.relay) (phase : t.phase.relay? = none)
      (length : t.relays.length = s.relays.length)
      (addressing : t.shared.addressing = s.shared.addressing) : ∀ n, t.AtHand n → t.Moored n :=
    keeps (fun n hold => .inl (by simpa [AtHand, relay, phase] using hold)) length addressing
  have frees (relay : t.shared.relay = none) (phase : t.phase.relay? = none) :
      ∀ n, t.AtHand n → t.Moored n := by
    rintro n (hold | hold)
    · rw [relay] at hold
      contradiction
    · rw [phase] at hold
      contradiction
  cases turn with
  | loadOptions phase stage =>
    simp only [PhaseFits, phase, LaunchFits, stage] at fits
    exact frees fits.2.relay rfl
  | @openRelay env l dir options relay phase stage opened =>
    simp only [PhaseFits, phase, LaunchFits, stage] at fits
    obtain ⟨-, vacant, addressing⟩ := fits
    rintro n (hold | hold)
    · rw [vacant.relay] at hold
      contradiction
    · obtain rfl : s.relays.length = n := Option.some.inj hold
      refine ⟨List.length_append, relay, s.sockets, env.network, ?_, ?_⟩
      · simp [System.relay?]
      · have isOpen : { relay with isOpen := true } = relay := by
          rw [← Relay.isOpen_of_open? opened]
        rw [isOpen, addressing]
        exact Relay.opens_of_open? opened
  | startServer phase stage =>
    exact keeps (fun n hold => by simpa [AtHand, Phase.relay?, phase, stage, addServer] using hold)
      rfl rfl
  | fail phase failure =>
    simp only [PhaseFits, phase] at fits
    exact frees (failure.vacant fits).relay rfl
  | adopt phase stage =>
    refine keeps (fun n hold => .inr ?_) rfl rfl
    simpa [AtHand, Phase.relay?, phase, stage] using hold
  | auxiliary phase start => cases start <;> exact rests rfl rfl rfl rfl
  | @beginVacant u purpose before phase quiet session occasion =>
    obtain ⟨_, _, _, finished⟩ := occasion.finishStop_fst
    exact rests (by rw [finished]) (relay?_finishStop purpose) (by rw [finished])
      (by rw [finished])
  | beginStop now phase quiet session occasion =>
    obtain ⟨_, rfl⟩ := occasion.fst
    exact rests rfl rfl rfl rfl
  | staleExit => exact keeps (fun _ => id) rfl rfl
  | leave phase quiet late tried purpose current found =>
    exact rests rfl rfl (List.length_set ..) rfl
  | forget => exact frees rfl rfl
  | closeRelay => exact rests rfl rfl (List.length_set ..) rfl
  | @tearDown x next =>
    let rest : System := { s with machine := .idle, published := .idle, session := none }
    obtain ⟨_, _, resumed⟩ := resume_fst rest next
    exact rests (by rw [resumed]) (relay?_resume next) (by rw [resumed]) (by rw [resumed])
  | _ => exact rests rfl rfl rfl rfl

variable {settings : Settings} {collaborators : Collaborators}

/-- The relay at hand is always one that was opened for the session there is, or is to be. -/
theorem Run.moored (run : Run (fresh settings collaborators) s seen) :
    ∀ n, s.AtHand n → s.Moored n := by
  refine (run.keeps (P := fun s _ => ∀ n, s.AtHand n → s.Moored n)
    (coherent_fresh settings collaborators) ?_ ?_ ?_ ?_).2
  · rintro n (hold | hold) <;> contradiction
  · exact fun coherent moored turn => turn.moored coherent moored
  · intro s t seen more _ moored beside n hold
    rw [AtHand, beside.relay, beside.phase] at hold
    exact (moored n hold).refit (beside.relays ▸ .nothing) (by rw [beside.relays])
      beside.addressing
  · rintro s seen _ moored _ n (hold | hold)
    · exact (moored n (.inl hold)).refit .nothing rfl rfl
    · contradiction

end System
end RaceControl
