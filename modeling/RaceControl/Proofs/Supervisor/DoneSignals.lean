import Mathlib.Data.List.Nodup
import RaceControl.Proofs.Supervisor.Children
import RaceControl.Proofs.Supervisor.Passages

/-!
Whoever waits for sessions to end is signalled once in every teardown, unless nothing more goes into
his queue. The list of those who wait changes only where someone registers and where a teardown
strikes off those who have gone.
-/
namespace RaceControl

def Effect.signal? : Effect → Option Nat
  | .signalled channel => some channel
  | _ => none

def Effect.round? : Effect → Option (List Nat)
  | .signalling channels => some channels
  | _ => none

/-- The channels that have been signalled. -/
def signals (seen : List Effect) : List Nat := seen.filterMap Effect.signal?

/-- The channels over which each round of signals goes; every teardown has one. -/
def rounds (seen : List Effect) : List (List Nat) := seen.filterMap Effect.round?

@[simp] lemma signals_append (seen more : List Effect) :
    signals (seen ++ more) = signals seen ++ signals more :=
  List.filterMap_append

@[simp] lemma rounds_append (seen more : List Effect) :
    rounds (seen ++ more) = rounds seen ++ rounds more :=
  List.filterMap_append

@[simp] lemma signals_nil : signals [] = [] := rfl

@[simp] lemma rounds_nil : rounds [] = [] := rfl

@[simp] lemma signals_signalled (number : Nat) : signals [.signalled number] = [number] := rfl

@[simp] lemma rounds_signalled (number : Nat) : rounds [.signalled number] = [] := rfl

@[simp] lemma signals_signalling (channels : List Nat) : signals [.signalling channels] = [] := rfl

@[simp] lemma rounds_signalling (channels : List Nat) :
    rounds [.signalling channels] = [channels] := rfl

/-- Whether an effect belongs to a round of signals. -/
def Effect.isSignal : Effect → Bool
  | .signalling _ | .signalled _ => true
  | _ => false

lemma signals_eq_nil {more : List Effect} (quiet : ∀ effect ∈ more, effect.isSignal = false) :
    signals more = [] ∧ rounds more = [] := by
  constructor
  all_goals
    refine List.filterMap_eq_nil_iff.mpr fun effect shown => ?_
    have := quiet effect shown
    cases effect <;> first | rfl | contradiction

/-- The channels whose turn in the round is still to come. -/
def Phase.calling : Phase → List Nat
  | .tearingDown (.signal remaining) _ => remaining
  | _ => []

def Phase.isPruning : Phase → Bool
  | .tearingDown .prune _ => true
  | _ => false

lemma Phase.calling_eq_nil {phase : Phase} (free : phase.holdsLock = false) :
    phase.calling = [] ∧ phase.isPruning = false := by
  cases phase with
  | tearingDown stage next => cases stage <;> first | exact ⟨rfl, rfl⟩ | contradiction
  | _ => exact ⟨rfl, rfl⟩

/-- What the receiver can do with his queue. -/
inductive Receives : (Channel → Channel) → Prop
  | one : Receives fun c => { c with queued := c.queued - 1 }
  | all : Receives fun c => { c with queued := 0 }
  | close : Receives fun c => { c with isClosed := true }

/-- A receiver puts nothing into his queue. -/
lemma Receives.queued_le {change : Channel → Channel} (receives : Receives change)
    (channel : Channel) : (change channel).queued ≤ channel.queued := by
  cases receives with
  | one => exact Nat.sub_le ..
  | all => exact Nat.zero_le _
  | close => exact Nat.le_refl _

namespace System
variable {s t u start : System} {seen more : List Effect} {i : Input}

/-- Whether a channel is open and not full. -/
def HasRoom (s : System) (number : Nat) : Prop :=
  ∃ channel, s.channels[number]? = some channel ∧ channel.isClosed = false ∧
    channel.queued < channel.capacity

lemma HasRoom.isOpen {number : Nat} (room : s.HasRoom number) : s.isOpenChannel number = true := by
  obtain ⟨channel, found, isOpen, -⟩ := room
  simp [isOpenChannel, found, isOpen]

/-- A channel with room takes one signal more into its queue. -/
lemma signal_of_hasRoom {number : Nat} (room : s.HasRoom number) :
    s.signal number = ({ s with channels := s.channels.modify number fun c =>
      { c with queued := c.queued + 1 } }, [.signalled number]) := by
  obtain ⟨channel, found, isOpen, free⟩ := room
  have sent : channel.trySend = { channel with queued := channel.queued + 1 } := by
    simp [Channel.trySend, isOpen, Nat.not_le.mpr free]
  have changed : channel.trySend ≠ channel := by
    rw [sent]
    intro same
    have queued := congrArg Channel.queued same
    simp at queued
  simp only [signal, found, if_neg changed]
  rw [sent, List.modify_eq_set_getElem?, found]
  rfl

/-- Into a channel without room nothing goes. -/
lemma signal_of_not_hasRoom {number : Nat} (room : ¬s.HasRoom number) :
    s.signal number = (s, []) := by
  unfold signal
  cases found : s.channels[number]? with
  | none => rfl
  | some channel =>
    have same : channel.trySend = channel := by
      unfold Channel.trySend
      refine if_pos ?_
      by_contra free
      rw [not_or, Nat.not_le, Bool.not_eq_true] at free
      exact room ⟨channel, found, free⟩
    have kept : s.channels.set number channel = s.channels := by
      obtain ⟨known, rfl⟩ := List.getElem?_eq_some_iff.mp found
      exact List.set_getElem_self known
    simp [same, kept]

/-- What a step does for those who wait for sessions to end. -/
inductive Signalling (s : System) : Input → System → List Effect → Prop
  | apart {j t shown} : t.channels = s.channels → t.shared.waiters = s.shared.waiters →
    t.phase.calling = s.phase.calling →
    (j.isOwn = true → s.phase.calling = [] ∧ s.phase.isPruning = false) →
    (∀ effect ∈ shown, effect.isSignal = false) → Signalling s j t shown
  | registers {capacity} : s.phase.holdsLock = false →
    Signalling s (.openChannel capacity)
      { s with
        channels := s.channels ++ [⟨capacity, 0, false⟩]
        shared := { s.shared with waiters := s.shared.waiters ++ [s.channels.length] } } []
  | receives {j number change} : j.isOwn = false → Receives change →
    Signalling s j (s.onChannel number change) []
  | prunes {j next} : j.isOwn = true → s.phase = .tearingDown .prune next →
    Signalling s j
      { s with
        shared := { s.shared with waiters := s.shared.waiters.filter s.isOpenChannel }
        phase := .tearingDown (.signal (s.shared.waiters.filter s.isOpenChannel)) next }
      [.signalling (s.shared.waiters.filter s.isOpenChannel)]
  | calls {j number rest next} : j.isOwn = true →
    s.phase = .tearingDown (.signal (number :: rest)) next →
    Signalling s j
      { s with
        channels := (s.signal number).1.channels
        phase := .tearingDown (.signal rest) next } (s.signal number).2
  | destroyed : Signalling s .destroy s.destroy.1 s.destroy.2

lemma isSignal_of_incidental {effect : Effect} (incidental : Incidental effect) :
    effect.isSignal = false := by
  cases incidental <;> rfl

lemma Turn.signalling (turn : s.Turn t more) (own : i.isOwn = true) : Signalling s i t more := by
  have apart (free : s.phase.holdsLock = false)
      (channels : t.channels = s.channels) (waiters : t.shared.waiters = s.shared.waiters)
      (calling : t.phase.calling = []) (quiet : ∀ effect ∈ more, effect.isSignal = false) :
      Signalling s i t more :=
    .apart channels waiters (calling.trans (Phase.calling_eq_nil free).1.symm)
      (fun _ => Phase.calling_eq_nil free) quiet
  cases turn with
  | announce phase | findDirectory phase | loadOptions phase | openRelay phase | startServer phase
  | adopt phase | requestWrapper phase | activate phase | giveUp phase | leave phase | forget phase
  | closeRelay phase =>
    exact apart (by rw [phase]; rfl) rfl rfl rfl (by simp [Effect.isSignal])
  | signalled phase =>
    exact .apart rfl rfl (by rw [phase]; rfl) (fun _ => by rw [phase]; exact ⟨rfl, rfl⟩) (by simp)
  | fail phase failure =>
    have free : s.phase.holdsLock = false := by
      rw [phase]
      rfl
    cases failure <;> exact apart free rfl rfl rfl (by simp [Effect.isSignal])
  | auxiliary phase start =>
    exact apart (by rw [phase]; rfl) rfl rfl rfl fun effect shown =>
      isSignal_of_incidental (start.incidental effect shown)
  | @beginVacant u purpose before phase quiet session occasion =>
    obtain ⟨_, _, finished⟩ := finishStop_fst u purpose
    have free : (u.finishStop purpose).1.phase.calling = [] := by cases purpose <;> rfl
    have shown : ∀ effect ∈ before, effect.isSignal = false := by
      cases occasion <;> simp [Effect.isSignal]
    obtain ⟨_, rfl⟩ := occasion.fst
    refine apart (by rw [phase]; rfl) ?_ ?_ free
      (List.forall_mem_append.mpr ⟨shown, forall_finishStop (fun _ _ => rfl) rfl⟩)
    · rw [finished]
    · rw [finished]
  | @beginStop u purpose before x now phase quiet session occasion =>
    have shown : ∀ effect ∈ before, effect.isSignal = false := by
      cases occasion <;> simp [Effect.isSignal]
    obtain ⟨_, rfl⟩ := occasion.fst
    refine apart (by rw [phase]; rfl) rfl rfl rfl (List.forall_mem_append.mpr ⟨shown, ?_⟩)
    split <;> simp [Effect.isSignal]
  | exit attends queue session generation =>
    refine apart ?_ rfl rfl rfl (List.forall_mem_append.mpr
      ⟨forall_exitWarning rfl, by simp [Effect.isSignal]⟩)
    cases attends with
    | waiting phase | stopping phase =>
      rw [phase]
      rfl
  | staleExit attends queue stale =>
    have free : s.phase.holdsLock = false := by
      cases attends with
      | waiting phase | stopping phase =>
        rw [phase]
        rfl
    exact apart free rfl rfl (Phase.calling_eq_nil free).1 (List.forall_mem_append.mpr
      ⟨forall_exitWarning rfl, by simp [Effect.isSignal]⟩)
  | kill phase =>
    exact apart (by rw [phase]; rfl) rfl rfl rfl (forall_forceKill rfl fun _ => rfl)
  | stopWrapper phase =>
    refine apart (by rw [phase]; rfl) rfl rfl rfl ?_
    split <;> simp [Effect.isSignal]
  | killChildren env phase =>
    exact apart (by rw [phase]; rfl) rfl rfl rfl
      (forall_kills rfl (fun _ => rfl) fun _ _ _ => rfl)
  | prune phase => exact .prunes own phase
  | signal phase => exact .calls own phase
  | @tearDown x next phase session =>
    let rest : System := { s with machine := .idle, published := .idle, session := none }
    obtain ⟨_, _, resumed⟩ := resume_fst rest next
    have free : (rest.resume next).1.phase.calling = [] := by
      cases next with
      | finishStop purpose => cases purpose <;> rfl
      | wait | keepStopping => rfl
    refine apart (by rw [phase]; rfl) ?_ ?_ free (List.forall_mem_cons.mpr ⟨rfl,
      List.forall_mem_cons.mpr ⟨rfl, forall_resume (fun _ _ => rfl) rfl⟩⟩)
    · rw [resumed]
    · rw [resumed]

lemma Beside.signalling (beside : s.Beside t more) (other : i.isOwn = false)
    (channels : t.channels = s.channels) (waiters : t.shared.waiters = s.shared.waiters) :
    Signalling s i t more := by
  refine .apart channels waiters (by rw [beside.phase]) (fun own => ?_) fun effect shown => ?_
  · rw [other] at own
    contradiction
  · cases beside.aside effect shown <;> rfl

/-- What goes on beside the loop leaves the channels alone, but for what their receivers do. -/
lemma Detached.signalling (detached : s.Detached i t more) : Signalling s i t more := by
  have aside := detached.apart.toBeside.signalling (i := i)
  cases detached with
  | openChannel free => exact .registers free
  | receiveSignal => exact .receives rfl .one
  | drainChannel => exact .receives rfl .all
  | closeChannel => exact .receives rfl .close
  | cloneHandle | dropHandle | runWrapper | wrote | capture | unconnected | beginSend | holdSocket
  | findClosed | transmit | endTask => exact aside rfl rfl rfl

theorem step?_signalling (coherent : s.Coherent) (step : s.step? i = some (t, more)) :
    Signalling s i t more := by
  have move := step?_move coherent step
  have aside (other : i.isOwn = false) (alive : i ≠ .destroy) :=
    (move.beside other alive).signalling other
  cases move with
  | turn own turn => exact turn.signalling own
  | enter | refuse | hangUp | notice | report => exact aside rfl (by simp) rfl rfl
  | apart detached apart => exact (step?_detached detached step).signalling
  | destroy => exact .destroyed

/-- How those who wait are enrolled: in the order of their registrations, each once, and those whose
turn is still to come at the end. -/
structure Enrolled (s : System) : Prop where
  ordered : s.shared.waiters.Pairwise (· < ·)
  known : ∀ number ∈ s.shared.waiters, number < s.channels.length
  calling : s.phase.calling <:+ s.shared.waiters

lemma Enrolled.nodup (enrolled : s.Enrolled) : s.shared.waiters.Nodup :=
  enrolled.ordered.imp Nat.ne_of_lt

lemma length_signal (number : Nat) :
    (s.signal number).1.channels.length = s.channels.length := by
  by_cases room : s.HasRoom number
  · simp [signal_of_hasRoom room]
  · rw [signal_of_not_hasRoom room]

namespace Signalling

lemma length_le (step : Signalling s i t more) : s.channels.length ≤ t.channels.length := by
  cases step with
  | apart channels => exact Nat.le_of_eq (congrArg _ channels.symm)
  | registers => simp
  | receives => simp [onChannel]
  | prunes | destroyed => exact Nat.le_refl _
  | calls => exact Nat.le_of_eq (length_signal _).symm

lemma enrolled (step : Signalling s i t more) (enrolled : s.Enrolled) : t.Enrolled := by
  obtain ⟨ordered, known, calling⟩ := enrolled
  cases step with
  | apart channels waiters same =>
    constructor
    · rwa [waiters]
    · rwa [waiters, channels]
    · rwa [waiters, same]
  | registers free =>
    constructor
    · refine List.pairwise_append.mpr ⟨ordered, List.pairwise_singleton _ _, ?_⟩
      intro number member last new
      rw [List.mem_singleton.mp new]
      exact known number member
    · intro number member
      rw [List.length_append]
      rcases List.mem_append.mp member with member | new
      · exact Nat.lt_add_right _ (known number member)
      · rw [List.mem_singleton.mp new]
        exact Nat.lt_succ_self _
    · change s.phase.calling <:+ _
      rw [(Phase.calling_eq_nil free).1]
      exact List.nil_suffix
  | receives =>
    refine ⟨ordered, fun number member => ?_, calling⟩
    simpa [onChannel] using known number member
  | prunes =>
    exact ⟨ordered.filter _, fun number member => known number (List.mem_filter.mp member).1,
      List.suffix_refl _⟩
  | @calls _ number rest next own phase =>
    refine ⟨ordered, fun other member => ?_, ?_⟩
    · exact Nat.lt_of_lt_of_eq (known other member) (length_signal number).symm
    · rw [phase] at calling
      exact (List.suffix_cons number rest).trans calling
  | destroyed => exact ⟨ordered, known, List.nil_suffix⟩

/-- A registration is struck off exactly where a teardown finds its receiver gone. -/
lemma mem_waiters {number : Nat} (step : Signalling s i t more)
    (known : number < s.channels.length) :
    number ∈ t.shared.waiters ↔ number ∈ s.shared.waiters ∧
      (i.isOwn = true → s.phase.isPruning = true → s.isOpenChannel number = true) := by
  cases step with
  | apart channels waiters calling free =>
    have stays : i.isOwn = true → s.phase.isPruning = true → s.isOpenChannel number = true := by
      intro own pruning
      rw [(free own).2] at pruning
      contradiction
    rw [waiters, and_iff_left stays]
  | registers =>
    have other : number ≠ s.channels.length := Nat.ne_of_lt known
    simp [Input.isOwn, other]
  | receives other => simp [onChannel, other]
  | prunes own phase => simp [own, phase, Phase.isPruning, List.mem_filter]
  | calls own phase => simp [phase, Phase.isPruning]
  | destroyed => simp [destroy, Input.isOwn]

/-- In a round every channel has one turn. -/
lemma count_le (step : Signalling s i t more) (enrolled : s.Enrolled) (number : Nat) :
    (signals more).count number + t.phase.calling.count number ≤
      s.phase.calling.count number + (rounds more).length := by
  cases step with
  | apart channels waiters calling free quiet =>
    obtain ⟨signals, rounds⟩ := signals_eq_nil quiet
    simp [signals, rounds, calling]
  | registers | receives => exact Nat.le_of_eq (Nat.zero_add _)
  | prunes own phase =>
    have once : (s.shared.waiters.filter s.isOpenChannel).count number ≤ 1 :=
      List.nodup_iff_count_le_one.mp (enrolled.nodup.filter _) number
    simpa [phase, Phase.calling] using once
  | @calls _ other rest next own phase =>
    by_cases room : s.HasRoom other
    · simp [signal_of_hasRoom room, phase, Phase.calling, List.count_cons, Nat.add_comm]
    · simpa [signal_of_not_hasRoom room, phase, Phase.calling] using List.count_le_count_cons
  | destroyed =>
    have quiet : signals s.destroy.2 = [] ∧ rounds s.destroy.2 = [] :=
      signals_eq_nil (by simp [destroy, Effect.isSignal])
    rw [quiet.1, quiet.2]
    exact Nat.zero_le _

lemma count_eq {number : Nat} (step : Signalling s i t more) (enrolled : s.Enrolled)
    (member : number ∈ s.shared.waiters) (room : s.HasRoom number)
    (alive : t.phase ≠ .destroyed) :
    (signals more).count number + t.phase.calling.count number =
      s.phase.calling.count number + (rounds more).length := by
  cases step with
  | apart channels waiters calling free quiet =>
    obtain ⟨signals, rounds⟩ := signals_eq_nil quiet
    simp [signals, rounds, calling]
  | registers | receives => exact Nat.zero_add _
  | prunes own phase =>
    have once : (s.shared.waiters.filter s.isOpenChannel).count number = 1 :=
      List.count_eq_one_of_mem (enrolled.nodup.filter _)
        (List.mem_filter.mpr ⟨member, room.isOpen⟩)
    simpa [phase, Phase.calling] using once
  | @calls _ other rest next own phase =>
    by_cases free : s.HasRoom other
    · simp [signal_of_hasRoom free, phase, Phase.calling, List.count_cons, Nat.add_comm]
    · have different : other ≠ number := by
        rintro rfl
        exact free room
      simp [signal_of_not_hasRoom free, phase, Phase.calling, different]
  | destroyed => exact absurd rfl alive

/-- The channel whose turn a step is. -/
def turn? (transit : Transit) : Option Nat :=
  if transit.input.isOwn then transit.before.phase.calling.head? else none

/-- A round leaves out no turn and keeps to its order. -/
lemma turn (step : Signalling s i t more) (alive : t.phase ≠ .destroyed) :
    (turn? ⟨s, i, t, more⟩).toList ++ t.phase.calling =
      s.phase.calling ++ (rounds more).flatten := by
  cases step with
  | apart channels waiters calling free quiet =>
    have none : turn? ⟨s, i, t, more⟩ = none := by
      cases own : i.isOwn with
      | true => simp [turn?, own, (free own).1]
      | false => simp [turn?, own]
    simp [none, (signals_eq_nil quiet).2, calling]
  | registers => simp [turn?, Input.isOwn]
  | receives other => simp [turn?, other, onChannel]
  | prunes own phase => simp [turn?, phase, Phase.calling]
  | @calls _ number rest next own phase =>
    have quiet : rounds (s.signal number).2 = [] := by
      by_cases room : s.HasRoom number
      · simp [signal_of_hasRoom room]
      · simp [signal_of_not_hasRoom room]
    simp [turn?, own, phase, Phase.calling, quiet]
  | destroyed => exact absurd rfl alive

/-- Only the turn of a channel puts something into its queue. -/
lemma signalled_of_lt {number : Nat} {channel later : Channel} (step : Signalling s i t more)
    (found : s.channels[number]? = some channel) (after : t.channels[number]? = some later)
    (longer : channel.queued < later.queued) : .signalled number ∈ more := by
  have same (kept : t.channels[number]? = s.channels[number]?) : False := by
    rw [kept, found] at after
    obtain rfl := Option.some.inj after
    exact Nat.lt_irrefl _ longer
  cases step with
  | apart channels => exact (same (by rw [channels])).elim
  | registers =>
    have known : number < s.channels.length := (List.getElem?_eq_some_iff.mp found).1
    exact (same (List.getElem?_append_left known)).elim
  | @receives j other change _ receives =>
    simp only [onChannel, List.getElem?_modify, found, Option.map_eq_map, Option.map_some] at after
    obtain rfl := Option.some.inj after
    have shorter := receives.queued_le channel
    split at longer <;> omega
  | prunes | destroyed => exact (same rfl).elim
  | @calls _ other rest next own phase =>
    by_cases room : s.HasRoom other
    · by_cases turn : other = number
      · subst turn
        simp [signal_of_hasRoom room]
      · refine (same ?_).elim
        simp [signal_of_hasRoom room, turn]
    · exact (same (by rw [signal_of_not_hasRoom room])).elim

/-- Signals are sent in the rounds of teardowns only. -/
lemma of_signalled {number : Nat} (step : Signalling s i t more)
    (shown : .signalled number ∈ more) :
    i.isOwn = true ∧ ∃ rest next, s.phase = .tearingDown (.signal (number :: rest)) next := by
  cases step with
  | apart channels waiters calling free quiet => simpa [Effect.isSignal] using quiet _ shown
  | registers | receives => contradiction
  | prunes => simp at shown
  | @calls _ other rest next own phase =>
    by_cases room : s.HasRoom other
    · obtain rfl : number = other := by simpa [signal_of_hasRoom room] using shown
      exact ⟨own, rest, next, phase⟩
    · simp [signal_of_not_hasRoom room] at shown
  | destroyed => simp [destroy] at shown

end Signalling

variable {settings : Settings} {collaborators : Collaborators} {passed : List Transit}

lemma Run.enrolled (run : Run (fresh settings collaborators) s seen) : s.Enrolled := by
  induction run with
  | none => exact ⟨.nil, by simp [fresh, Shared.fresh], List.nil_suffix⟩
  | step run step ih => exact (step?_signalling run.coherent step).enrolled ih

/-- The channels whose turns have been taken. -/
def turns (passed : List Transit) : List Nat := passed.filterMap Signalling.turn?

/-- What is counted for a registration, with all the steps since it has been made. -/
structure Tally (s : System) (number : Nat) (passed : List Transit) : Prop where
  known : number < s.channels.length
  /-- Each round has the turns of all its channels, and keeps to their order. -/
  turns : s.phase ≠ .destroyed →
    turns passed ++ s.phase.calling = (rounds (shownIn passed)).flatten
  /-- A registration lasts until a teardown finds its receiver gone. -/
  lasts : number ∈ s.shared.waiters ↔ ∀ transit ∈ passed, transit.input.isOwn = true →
    transit.before.phase.isPruning = true → transit.before.isOpenChannel number = true
  /-- There are no more signals than rounds, with the turn that is still to come. -/
  atMost : (signals (shownIn passed)).count number + s.phase.calling.count number ≤
    (rounds (shownIn passed)).length
  /-- There are no fewer where the queue has always had room. -/
  exactly : s.phase ≠ .destroyed → (∀ transit ∈ passed, transit.before.HasRoom number) →
    (signals (shownIn passed)).count number + s.phase.calling.count number =
      (rounds (shownIn passed)).length

lemma Tally.begin {capacity : Nat}
    (registered : start.step? (.openChannel capacity) = some (s, more)) :
    Tally s start.channels.length [] := by
  simp only [step?, openChannel] at registered
  split at registered
  · contradiction
  case isFalse free =>
    cases registered
    have none := (Phase.calling_eq_nil (by simpa using free)).1
    constructor <;> simp [System.turns, none]

lemma Tally.step {number : Nat} (tally : Tally s number passed) (enrolled : s.Enrolled)
    (alive : t.phase ≠ .destroyed → s.phase ≠ .destroyed) (step : Signalling s i t more) :
    Tally t number (passed ++ [⟨s, i, t, more⟩]) where
  known := Nat.lt_of_lt_of_le tally.known step.length_le
  turns running := by
    have turn : System.turns [⟨s, i, t, more⟩] = (Signalling.turn? ⟨s, i, t, more⟩).toList := by
      rw [System.turns, List.filterMap_cons]
      cases Signalling.turn? ⟨s, i, t, more⟩ <;> rfl
    calc System.turns (passed ++ [⟨s, i, t, more⟩]) ++ t.phase.calling
      _ = System.turns passed ++
          ((Signalling.turn? ⟨s, i, t, more⟩).toList ++ t.phase.calling) := by
        rw [← turn, System.turns, List.filterMap_append, List.append_assoc]
        rfl
      _ = (rounds (shownIn passed)).flatten ++ (rounds more).flatten := by
        rw [step.turn running, ← List.append_assoc, tally.turns (alive running)]
      _ = (rounds (shownIn (passed ++ [⟨s, i, t, more⟩]))).flatten := by simp
  lasts := by
    rw [step.mem_waiters tally.known, tally.lasts, List.forall_mem_append,
      List.forall_mem_singleton]
  atMost := by
    have one := step.count_le enrolled number
    have all := tally.atMost
    simp only [shownIn_append, shownIn_singleton, signals_append, rounds_append, List.count_append,
      List.length_append]
    omega
  exactly running room := by
    obtain ⟨before, here⟩ := List.forall_mem_append.mp room
    have free : s.HasRoom number := here _ (List.mem_singleton_self _)
    -- A queue with room is that of a receiver who is there, so no teardown has struck him off.
    have member : number ∈ s.shared.waiters :=
      tally.lasts.mpr fun transit passed _ _ => (before transit passed).isOpen
    have one := step.count_eq enrolled member free running
    have all := tally.exactly (alive running) before
    simp only [shownIn_append, shownIn_singleton, signals_append, rounds_append, List.count_append,
      List.length_append]
    omega

/-- What can be told of the signals to those who wait for sessions to end, and of one of them since
he registered, given the passage since then and all that has been seen. -/
structure Notified (s : System) (seen : List Effect) (number : Nat) (passed : List Transit) : Prop
    extends Tally s number passed where
  /-- A round goes over those who have not gone, in the order of their registrations. -/
  ordered : s.shared.waiters.Pairwise (· < ·)
  round : ∀ {next}, s.phase = .tearingDown .prune next → ∀ env,
    s.step? (.proceed env) = some
      ({ s with
        shared := { s.shared with waiters := s.shared.waiters.filter s.isOpenChannel }
        phase := .tearingDown (.signal (s.shared.waiters.filter s.isOpenChannel)) next },
        [.signalling (s.shared.waiters.filter s.isOpenChannel)])
  /-- A turn waits for nothing: a signal goes into a queue with room, and nothing into another. -/
  turn : ∀ {n rest next}, s.phase = .tearingDown (.signal (n :: rest)) next → ∀ env,
    ∃ t more, s.step? (.proceed env) = some (t, more) ∧
      t.phase = .tearingDown (.signal rest) next ∧ t.shared = s.shared ∧
      (s.HasRoom n → more = [.signalled n] ∧
        t.channels = s.channels.modify n fun c => { c with queued := c.queued + 1 }) ∧
      (¬s.HasRoom n → more = [] ∧ t.channels = s.channels)
  /-- By then callers see no session any more, and all processes beside the server are killed. -/
  late : ∀ {remaining next}, s.phase = .tearingDown (.signal remaining) next →
    s.shared.event = none ∧ s.shared.relay = none ∧ s.shared.children.tracked = [] ∧
      kills seen = starts seen
  /-- No signal is sent outside a turn, and no queue grows without one. -/
  only : ∀ {i t more n}, s.step? i = some (t, more) → .signalled n ∈ more →
    i.isOwn = true ∧ ∃ rest next, s.phase = .tearingDown (.signal (n :: rest)) next
  grows : ∀ {i t more n channel later}, s.step? i = some (t, more) →
    s.channels[n]? = some channel → t.channels[n]? = some later →
    channel.queued < later.queued → .signalled n ∈ more

theorem Passage.notified {capacity : Nat} {opened : System}
    (run : Run (fresh settings collaborators) start seen)
    (registered : start.step? (.openChannel capacity) = some (opened, []))
    (passage : Passage opened s passed) :
    Notified s (seen ++ shownIn passed) start.channels.length passed := by
  have first : Run (fresh settings collaborators) opened seen := by
    simpa using run.step registered
  have onward := passage.run first
  constructor
  · induction passage with
    | none => exact .begin registered
    | @step s t passed i more passage step ih =>
      have here := passage.run first
      refine (ih here).step here.enrolled (fun alive gone => ?_)
        (step?_signalling here.coherent step)
      exact alive ((step?_move here.coherent step).destroyed gone)
  · exact onward.enrolled.ordered
  · intro next phase env
    rw [step?, proceed, phase]
    rfl
  · intro n rest next phase env
    refine ⟨_, _, by rw [step?, proceed, phase], rfl, ?_, fun room => ?_, fun room => ?_⟩
    · change (s.signal n).1.shared = s.shared
      rw [signal_fst]
    · rw [stepTeardown, signal_of_hasRoom room]
      exact ⟨rfl, rfl⟩
    · rw [stepTeardown, signal_of_not_hasRoom room]
      exact ⟨rfl, rfl⟩
  · intro remaining next phase
    have fits := onward.coherent.phase
    simp only [PhaseFits, phase, TeardownFits] at fits
    obtain ⟨-, ⟨⟨x, leaving⟩, tracked⟩, -⟩ := fits
    refine ⟨leaving.event, leaving.relay, tracked, ?_⟩
    rw [onward.book, tracked, List.append_nil]
  · exact fun step => (step?_signalling onward.coherent step).of_signalled
  · exact fun step => (step?_signalling onward.coherent step).signalled_of_lt

/-- Someone waits for two sessions to end, but his queue is full after the first. -/
theorem notified_full :
    ∃ start opened s passed, Run (fresh .standard ⟨false, false⟩) start [] ∧
      start.step? (.openChannel 1) = some (opened, []) ∧ Passage opened s passed ∧
      Notified s (shownIn passed) 0 passed ∧ rounds (shownIn passed) = [[0], [0]] ∧
      signals (shownIn passed) = [0] := by
  obtain ⟨opened, ⟨s, shown⟩, registered, steps, told⟩ : ∃ opened out,
      (fresh .standard ⟨false, false⟩).step? (.openChannel 1) = some (opened, []) ∧
      opened.steps? (launchInputs ⟨1, .start ⟨"race"⟩ (.direct ":9000" 9001)⟩ ++
        exitInputs 1 0 ++ [.proceed obliging] ++
        launchInputs ⟨2, .start ⟨"race"⟩ (.direct ":9000" 9001)⟩ ++
        exitInputs 2 1 ++ [.proceed obliging]) = some out ∧
      rounds out.2 = [[0], [0]] ∧ signals out.2 = [0] := by
    refine ⟨_, _, rfl, rfl, ?_, ?_⟩ <;> decide
  obtain ⟨passed, passage, rfl⟩ := Passage.of_steps steps
  exact ⟨_, _, _, passed, .none, registered, passage, passage.notified .none registered, told⟩

end System
end RaceControl
