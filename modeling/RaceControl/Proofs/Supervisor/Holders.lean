import Mathlib.Data.List.Flatten
import Mathlib.Data.List.Nodup
import RaceControl.Proofs.Supervisor.Moorings
import RaceControl.Proofs.Supervisor.Tasks

/-!
Who holds sockets. Once a relay has been closed nobody takes hold of a socket of it any more. Its
tasks end whenever they come to it, and when the last holder has let go its sockets are released.
-/
namespace RaceControl

/-- The relay that a message has found. -/
def SendStage.relay : SendStage → Nat
  | .found n | .ready n _ => n

lemma Sending.holds?_eq_some_iff {sending : Sending} {n ticket : Nat} :
    sending.holds? n = some ticket ↔
      (∃ datagram, sending.stage = .ready n datagram) ∧ sending.ticket = ticket := by
  unfold Sending.holds?
  cases sending.stage with
  | found relay => simp
  | ready relay datagram => by_cases same : relay = n <;> simp [same]

/-- The step in which a holder lets go of the sockets of a relay that has been closed. -/
inductive Holder.LetsGo (n : Nat) : Holder → Input → Prop
  | task {loop} : LetsGo n (.task loop) (.endTask ⟨n, loop⟩)
  | message {ticket result} : LetsGo n (.message ticket) (.transmit ticket result)

lemma Relay.nodup_loops (relay : Relay) : relay.loops.Nodup := by
  unfold Relay.loops
  split <;> simp

lemma Relay.Becomes.heldBy {relay later : Relay} (becomes : relay.Becomes later) :
    later.heldBy = relay.heldBy := by
  rw [← becomes.same]
  funext holder
  cases holder <;> rfl

lemma Refits.length_le {relays after : List Relay} (refits : Refits relays after) :
    relays.length ≤ after.length := by
  cases refits <;> simp

namespace System
variable {s t : System} {seen more : List Effect} {i : Input} {n : Nat} {passed : List Transit}
  {settings : Settings} {collaborators : Collaborators}

/-- All hold on to relays that have been opened, a task just once, and no message has found a relay
that callers have not seen yet. -/
structure Anchored (s : System) : Prop where
  once : s.relayTasks.Nodup
  tasks : ∀ task ∈ s.relayTasks, task.relay < s.relays.length
  messages : ∀ sending ∈ s.sendings,
    sending.stage.relay < s.relays.length ∧ s.phase.relay? ≠ some sending.stage.relay

/-- A turn leaves the tasks of relays alone, or opens a relay with tasks of its own. -/
lemma Turn.relayTasks (turn : s.Turn t more) :
    t.relayTasks = s.relayTasks ∨ ∃ relay : Relay, t.relays = s.relays ++ [relay] ∧
      t.relayTasks = s.relayTasks ++ relay.loops.map (⟨s.relays.length, ·⟩) := by
  cases turn with
  | openRelay => exact .inr ⟨_, rfl, rfl⟩
  | fail phase failure => cases failure <;> exact .inl rfl
  | beginVacant phase quiet session occasion =>
    obtain ⟨_, _, _, finished⟩ := occasion.finishStop_fst
    exact .inl (by rw [finished])
  | beginStop now phase quiet session occasion =>
    obtain ⟨_, rfl⟩ := occasion.fst
    exact .inl rfl
  | @tearDown x next =>
    obtain ⟨_, _, resumed⟩ := s.tearDown_fst next
    exact .inl (by rw [resumed])
  | _ => exact .inl rfl

/-- A launch goes about a relay that it went about before, or about a new one. -/
lemma Turn.relay?_phase (turn : s.Turn t more) (about : t.phase.relay? = some n) :
    s.phase.relay? = some n ∨ n = s.relays.length := by
  cases turn with
  | openRelay => exact .inr (Option.some.inj about).symm
  | startServer phase stage => exact .inl (by simpa [Phase.relay?, phase, stage] using about)
  | auxiliary phase start => cases start <;> contradiction
  | @beginVacant u purpose =>
    rw [relay?_finishStop] at about
    contradiction
  | @tearDown x next =>
    rw [relay?_resume] at about
    contradiction
  | staleExit => exact .inl about
  | _ => contradiction

lemma Turn.anchored (turn : s.Turn t more) (anchored : s.Anchored) : t.Anchored := by
  have grows := turn.refits.length_le
  have messages : ∀ sending ∈ t.sendings,
      sending.stage.relay < t.relays.length ∧ t.phase.relay? ≠ some sending.stage.relay := by
    intro sending member
    rw [turn.spares.sendings] at member
    obtain ⟨known, unseen⟩ := anchored.messages sending member
    refine ⟨Nat.lt_of_lt_of_le known grows, fun about => ?_⟩
    exact (turn.relay?_phase about).elim unseen (Nat.ne_of_lt known)
  rcases turn.relayTasks with same | ⟨relay, opened, tasks⟩
  · refine ⟨same ▸ anchored.once, fun task member => ?_, messages⟩
    exact Nat.lt_of_lt_of_le (anchored.tasks task (same ▸ member)) grows
  · refine ⟨?_, fun task member => ?_, messages⟩
    · rw [tasks]
      refine List.nodup_append.mpr ⟨anchored.once, List.Nodup.map ?_ relay.nodup_loops, ?_⟩
      · exact fun _ _ same => congrArg RelayTask.loop same
      · rintro task earlier _ later rfl
        obtain ⟨loop, -, rfl⟩ := List.mem_map.mp later
        exact Nat.lt_irrefl _ (anchored.tasks _ earlier)
    · rw [tasks] at member
      rcases List.mem_append.mp member with earlier | later
      · exact Nat.lt_of_lt_of_le (anchored.tasks task earlier) grows
      · obtain ⟨loop, -, rfl⟩ := List.mem_map.mp later
        simp [opened]

/-- A message comes to know of a relay by finding the one that callers see. -/
lemma Detached.sendings (detached : s.Detached i t more) : ∀ sending ∈ t.sendings,
    (∃ earlier ∈ s.sendings, earlier.stage.relay = sending.stage.relay) ∨
      s.shared.relay = some sending.stage.relay := by
  intro sending member
  cases detached with
  | @beginSend ticket payload n lock found =>
    rcases List.mem_append.mp member with earlier | new
    · exact .inl ⟨sending, earlier, rfl⟩
    · obtain rfl := List.mem_singleton.mp new
      exact .inr found
  | @holdSocket ticket earlier n relay found stage =>
    rcases List.mem_append.mp member with other | held
    · exact .inl ⟨sending, (List.mem_filter.mp other).1, rfl⟩
    · obtain rfl := List.mem_singleton.mp held
      exact .inl ⟨earlier, List.mem_of_find?_eq_some found, by simp [stage, SendStage.relay]⟩
  | findClosed | transmit => exact .inl ⟨sending, (List.mem_filter.mp member).1, rfl⟩
  | _ => exact .inl ⟨sending, member, rfl⟩

/-- Callers see no relay while a launch goes about one. -/
lemma Coherent.relay_of_phase (coherent : s.Coherent) (about : s.phase.relay? = some n) :
    s.shared.relay = none := by
  have fits := coherent.phase
  unfold Phase.relay? at about
  split at about
  case h_1 l phase =>
    simp only [PhaseFits, phase] at fits
    split at about
    case h_1 stage | h_2 stage =>
      simp only [LaunchFits, stage] at fits
      exact fits.2.1.relay
    case h_3 => contradiction
  case h_2 => contradiction

lemma Run.anchored (run : Run (fresh settings collaborators) s seen) : s.Anchored := by
  induction run with
  | none => constructor <;> simp [fresh]
  | @step s t seen more i run step ih =>
    have coherent := run.coherent
    rcases step?_cases coherent step with turn | beside | ⟨-, -, destroyed⟩
    · exact turn.anchored ih
    · refine ⟨ih.once.sublist beside.eases.tasks, fun task member => ?_, ?_⟩
      · rw [beside.relays]
        exact ih.tasks task (beside.eases.tasks.subset member)
      · intro sending member
        rw [beside.relays, beside.phase]
        rcases step?_tasks coherent step with detached | ⟨-, spares⟩
        · rcases detached.sendings sending member with ⟨earlier, known, same⟩ | found
          · rw [← same]
            exact ih.messages earlier known
          · refine ⟨by simp [(run.moored _ (.inl found)).newest], fun about => ?_⟩
            rw [coherent.relay_of_phase about] at found
            contradiction
        · exact ih.messages sending (spares.sendings ▸ member)
    · cases destroyed
      exact ⟨ih.once, ih.tasks, fun sending member => ⟨(ih.messages sending member).1, nofun⟩⟩

lemma isOpen_of_closed (closed : ∀ relay ∈ s.relays, relay.isOpen = false) (n : Nat) :
    s.isOpen n = false := by
  rw [System.isOpen, relay?]
  cases found : s.relays[n]? with
  | none => rfl
  | some relay => exact closed relay (List.mem_of_getElem? found)

lemma holders_of_closed (closed : s.isOpen n = false) :
    s.holders n = (s.relayTasks.filter (·.relay == n)).map (.task ·.loop) ++
      (s.sendings.filterMap (·.holds? n)).map .message := by
  simp [holders, closed]

lemma task_mem_holders {loop : RelayLoop} :
    .task loop ∈ s.holders n ↔ ⟨n, loop⟩ ∈ s.relayTasks := by
  constructor
  · intro holds
    simp only [holders, List.mem_append, List.mem_map, List.mem_filter] at holds
    rcases holds with (relay | ⟨⟨number, other⟩, ⟨member, same⟩, loop⟩) | ⟨ticket, -, message⟩
    · split at relay <;> simp at relay
    · simp_all
    · contradiction
  · exact fun member => by simpa [holders] using ⟨_, ⟨member, rfl⟩, rfl⟩

lemma message_mem_holders {ticket : Nat} :
    .message ticket ∈ s.holders n ↔ ∃ sending ∈ s.sendings,
      (∃ datagram, sending.stage = .ready n datagram) ∧ sending.ticket = ticket := by
  simp [holders, Sending.holds?_eq_some_iff]

lemma relay_mem_holders : .relay ∈ s.holders n ↔ s.isOpen n = true := by
  simp [holders]

/-- Just the tasks of a closed relay can hold it that no message has found. -/
lemma exists_loop_of_unfound (closed : s.isOpen n = false)
    (unfound : ∀ sending ∈ s.sendings, sending.stage.relay ≠ n) :
    ∀ holder ∈ s.holders n, ∃ loop, holder = .task loop := by
  intro holder holds
  cases holder with
  | task loop => exact ⟨loop, rfl⟩
  | relay =>
    rw [relay_mem_holders, closed] at holds
    contradiction
  | message ticket =>
    obtain ⟨sending, member, ⟨datagram, stage⟩, -⟩ := message_mem_holders.mp holds
    exact absurd (congrArg SendStage.relay stage) (unfound sending member)

/-- Beside the loop the holders of a closed relay only let go. -/
lemma Eases.holders (eases : Eases s t) (relays : t.relays = s.relays)
    (closed : s.isOpen n = false) : (t.holders n).Sublist (s.holders n) := by
  rw [holders_of_closed closed, holders_of_closed ((isOpen_of_relays relays n).trans closed)]
  exact ((eases.tasks.filter _).map _).append ((eases.messages n closed).map _)

/-- Beside the loop no socket is bound that was not. A message can only take hold of one that an open
relay holds itself. -/
lemma Eases.sockets (eases : Eases s t) (relays : t.relays = s.relays) : t.sockets ⊆ s.sockets := by
  intro socket bound
  obtain ⟨n, known, bound⟩ := List.mem_flatMap.mp bound
  rw [relays] at known
  refine List.mem_flatMap.mpr ⟨n, known, ?_⟩
  have same : t.relay? n = s.relay? n := by rw [relay?, relay?, relays]
  simp only [System.socketsOf, same] at bound ⊢
  cases found : s.relay? n with
  | none => simp [found] at bound
  | some relay =>
    rw [found] at bound
    obtain ⟨holder, holds, held⟩ := List.mem_flatMap.mp bound
    cases isOpen : s.isOpen n with
    | false =>
      exact List.mem_flatMap.mpr ⟨holder, (eases.holders relays isOpen).subset holds, held⟩
    | true =>
      cases holder with
      | task loop =>
        refine List.mem_flatMap.mpr ⟨.task loop, ?_, held⟩
        exact task_mem_holders.mpr (eases.tasks.subset (task_mem_holders.mp holds))
      | relay | message =>
        exact List.mem_flatMap.mpr ⟨.relay, relay_mem_holders.mpr isOpen, held⟩

/-- Nobody but an opened relay brings holders with it, and that is a new one. -/
lemma Turn.holders (turn : s.Turn t more) (known : n < s.relays.length)
    (closed : s.isOpen n = false) (after : t.isOpen n = false) : t.holders n = s.holders n := by
  rw [holders_of_closed closed, holders_of_closed after, turn.spares.sendings]
  rcases turn.relayTasks with same | ⟨relay, -, tasks⟩
  · rw [same]
  · rw [tasks, List.filter_append]
    simp [Nat.ne_of_gt known]

/-- A closed relay stays closed. -/
lemma step?_isOpen (coherent : s.Coherent) (step : s.step? i = some (t, more))
    (known : n < s.relays.length) (closed : s.isOpen n = false) : t.isOpen n = false := by
  refine Bool.eq_false_iff.mpr fun isOpen => ?_
  have before : s.isOpen n = true := (step?_refits coherent step).any_isOpen known isOpen
  rw [closed] at before
  contradiction

lemma step?_holders (coherent : s.Coherent) (step : s.step? i = some (t, more))
    (known : n < s.relays.length) (closed : s.isOpen n = false) :
    (t.holders n).Sublist (s.holders n) := by
  rcases step?_cases coherent step with turn | beside | ⟨-, -, destroyed⟩
  · rw [turn.holders known closed (step?_isOpen coherent step known closed)]
  · exact beside.eases.holders beside.relays closed
  · cases destroyed
    exact .refl _

lemma Passage.holders (passage : Passage s t passed)
    (run : Run (fresh settings collaborators) s seen) (known : n < s.relays.length)
    (closed : s.isOpen n = false) :
    n < t.relays.length ∧ t.isOpen n = false ∧ (t.holders n).Sublist (s.holders n) := by
  induction passage with
  | none => exact ⟨known, closed, .refl _⟩
  | step passage step ih =>
    obtain ⟨known, closed, fewer⟩ := ih
    have coherent := (passage.run run).coherent
    exact ⟨Nat.lt_of_lt_of_le known (step?_refits coherent step).length_le,
      step?_isOpen coherent step known closed,
      (step?_holders coherent step known closed).trans fewer⟩

/-- The sockets of a closed relay that are bound later on were bound before. -/
lemma Passage.socketsOf (passage : Passage s t passed)
    (run : Run (fresh settings collaborators) s seen) (known : n < s.relays.length)
    (closed : s.isOpen n = false) : (t.socketsOf n).Sublist (s.socketsOf n) := by
  have found : s.relay? n = some s.relays[n] := List.getElem?_eq_getElem known
  obtain ⟨later, here, becomes⟩ := passage.becomes run found
  simp only [System.socketsOf, found, here, becomes.heldBy]
  exact (passage.holders run known closed).2.2.flatMap _

/-- The sockets of the first so many relays that are bound. -/
def lingering (s : System) (count : Nat) : List Socket := (List.range count).flatMap s.socketsOf

/-- What is bound of relays that are all closed was bound before. -/
lemma Passage.lingering (passage : Passage s t passed)
    (run : Run (fresh settings collaborators) s seen)
    (closed : ∀ relay ∈ s.relays, relay.isOpen = false) :
    (t.lingering s.relays.length).Sublist s.sockets :=
  .flatMap_right _ fun n member =>
    passage.socketsOf run (List.mem_range.mp member) (isOpen_of_closed closed n)

lemma holder_letsGo {holder : Holder} (anchored : s.Anchored)
    (step : s.step? i = some (t, more)) (letsGo : holder.LetsGo n i) : holder ∉ t.holders n := by
  cases letsGo with
  | @task loop =>
    cases step?_detached rfl step
    rw [task_mem_holders]
    exact anchored.once.not_mem_erase
  | @message ticket result =>
    cases step?_detached rfl step
    rw [message_mem_holders]
    rintro ⟨sending, member, -, own⟩
    simp [dropSending, own] at member

/-- Who has let go of a closed relay does not hold a socket of it again. -/
lemma Passage.letsGo {holder : Holder} (passage : Passage s t passed)
    (run : Run (fresh settings collaborators) s seen) (known : n < s.relays.length)
    (closed : s.isOpen n = false) (letsGo : ∃ x ∈ passed, holder.LetsGo n x.input) :
    holder ∉ t.holders n := by
  induction passage with
  | none =>
    obtain ⟨x, member, -⟩ := letsGo
    contradiction
  | @step t u passed i more passage step ih =>
    obtain ⟨x, member, letsGo⟩ := letsGo
    have here := passage.run run
    rcases List.mem_append.mp member with earlier | last
    · obtain ⟨known, closed, -⟩ := passage.holders run known closed
      exact fun holds => ih ⟨x, earlier, letsGo⟩
        ((step?_holders here.coherent step known closed).subset holds)
    · obtain rfl := List.mem_singleton.mp last
      exact holder_letsGo here.anchored step letsGo

/-- How a relay that has been closed lets go of its sockets. -/
structure Subsides (s : System) (n : Nat) : Prop where
  /-- Each of its tasks can end at any time. -/
  due : ∀ {loop}, .task loop ∈ s.holders n → (s.step? (.endTask ⟨n, loop⟩)).isSome = true
  /-- Nobody takes hold of a socket of it again. -/
  dwindles : ∀ {t passed}, Passage s t passed →
    t.isOpen n = false ∧ (t.holders n).Sublist (s.holders n)
  /-- When all of its holders have let go, its sockets are released. -/
  released : ∀ {t passed}, Passage s t passed →
    (∀ holder ∈ s.holders n, ∃ x ∈ passed, holder.LetsGo n x.input) → t.socketsOf n = []

lemma socketsOf_eq_nil (free : s.holders n = []) : s.socketsOf n = [] := by
  unfold System.socketsOf
  split
  · rfl
  · rw [free]
    rfl

lemma Run.subsides (run : Run (fresh settings collaborators) s seen)
    (known : n < s.relays.length) (closed : s.isOpen n = false) : s.Subsides n where
  due holds := by simp [step?, endTask, task_mem_holders.mp holds, closed]
  dwindles passage := (passage.holders run known closed).2
  released passage parted := by
    refine socketsOf_eq_nil (List.eq_nil_iff_forall_not_mem.mpr fun holder holds => ?_)
    have before := (passage.holders run known closed).2.2.subset holds
    exact passage.letsGo run known closed (parted holder before) holds

/-- Every relay is closed, and lets go of its sockets as its tasks end. -/
structure Shut (s : System) : Prop where
  closed : ∀ relay ∈ s.relays, relay.isOpen = false
  subsides : ∀ n < s.relays.length, s.Subsides n

lemma Run.shut (run : Run (fresh settings collaborators) s seen)
    (closed : ∀ relay ∈ s.relays, relay.isOpen = false) : s.Shut :=
  ⟨closed, fun n known => run.subsides known (isOpen_of_closed closed n)⟩

end System
end RaceControl
