import RaceControl.Proofs.Supervisor.Integrity
import RaceControl.Proofs.Supervisor.Moorings
import RaceControl.Proofs.Supervisor.Tasks

/-!
The messages that callers send to the server. A call looks the relay up, then takes hold of its
socket, then sends; between any two of these moments the session may end and another may begin.
-/
namespace RaceControl

/-- Whether an effect tells of the call that sends a message under a ticket. -/
def Effect.concerns (ticket : Nat) : Effect → Bool
  | .sent sender _ | .sendAnswered sender _ => sender == ticket
  | _ => false

/-- All that is seen of such a call. -/
def told (ticket : Nat) (shown : List Effect) : List Effect := shown.filter (·.concerns ticket)

@[simp] lemma told_append (ticket : Nat) (shown later : List Effect) :
    told ticket (shown ++ later) = told ticket shown ++ told ticket later :=
  List.filter_append ..

lemma told_eq_nil {ticket : Nat} {shown : List Effect}
    (foreign : ∀ effect ∈ shown, effect.isDetached = false) : told ticket shown = [] := by
  refine List.filter_eq_nil_iff.mpr fun effect member => ?_
  have other := foreign effect member
  cases effect <;> first | exact Bool.false_ne_true | contradiction

/-- Whether a step is the one in which such a call looks for the socket of its relay. -/
def Input.isLook (ticket : Nat) : Input → Bool
  | .holdSocket caller => caller == ticket
  | _ => false

namespace System
variable {s t : System} {seen more : List Effect} {i : Input} {passed : List Transit}
  {ticket : Nat} {payload : List UInt8}

lemma ticket_of_sending? {sending : Sending} (found : s.sending? ticket = some sending) :
    sending.ticket = ticket := by
  simpa using List.find?_some found

lemma sending?_dropSending (s : System) (ticket other : Nat) :
    (s.dropSending other).sending? ticket = if other = ticket then none else s.sending? ticket := by
  rw [sending?, dropSending, List.find?_filter]
  split
  case isTrue same => simp [same]
  case isFalse different =>
    congr 1
    funext sending
    by_cases own : sending.ticket = ticket
    · simp [own, Ne.symm different]
    · simp [own]

lemma sending?_add (sending : Sending) :
    ({ s with sendings := s.sendings ++ [sending] } : System).sending? ticket =
      (s.sending? ticket).or (if sending.ticket = ticket then some sending else none) := by
  rw [sending?, List.find?_append]
  by_cases own : sending.ticket = ticket <;> simp [sending?, own]

/-- What a step does for a call that is under way. -/
inductive Furthers (s : System) (ticket : Nat) : Input → System → List Effect → Prop
  | others {i : Input} {t : System} {more : List Effect} :
    i.isLook ticket = false → t.sending? ticket = s.sending? ticket → told ticket more = [] →
    Furthers s ticket i t more
  | hold {t : System} {more : List Effect} {sending n relay} :
    s.sending? ticket = some sending → sending.stage = .found n →
    s.relay? n = some relay → relay.isOpen = true →
    t.sending? ticket = some { sending with
      stage := .ready n ⟨relay.socket.address, relay.server, sending.payload⟩ } →
    told ticket more = [] → Furthers s ticket (.holdSocket ticket) t more
  | refuse {t : System} {more : List Effect} {sending n relay} :
    s.sending? ticket = some sending → sending.stage = .found n →
    s.relay? n = some relay → relay.isOpen = false →
    t.sending? ticket = none →
    told ticket more = [.sendAnswered ticket (.error .noOpenConnection)] →
    Furthers s ticket (.holdSocket ticket) t more
  | send {t : System} {more : List Effect} {sending n datagram result} :
    s.sending? ticket = some sending → sending.stage = .ready n datagram →
    t.sending? ticket = none →
    told ticket more = [.sent ticket datagram, .sendAnswered ticket (sendResult result)] →
    Furthers s ticket (.transmit ticket result) t more

lemma Detached.furthers (detached : s.Detached i t more)
    (other : ∀ payload, i ≠ .beginSend ticket payload) : s.Furthers ticket i t more := by
  cases detached with
  | @unconnected caller payload =>
    have different : caller ≠ ticket := fun same => other payload (by rw [same])
    exact .others rfl rfl (by simp [told, Effect.concerns, different])
  | @beginSend caller payload =>
    have different : caller ≠ ticket := fun same => other payload (by rw [same])
    exact .others rfl (by simp [sending?_add, different]) rfl
  | @holdSocket caller sending n relay found stage there isOpen =>
    have own := ticket_of_sending? found
    by_cases same : caller = ticket
    · subst same
      refine .hold found stage there isOpen ?_ rfl
      simp [sending?_add, sending?_dropSending, own]
    · refine .others ?_ ?_ rfl
      · simp [Input.isLook, same]
      · simp [sending?_add, sending?_dropSending, own, same]
  | @findClosed caller sending n relay found stage there closed =>
    by_cases same : caller = ticket
    · subst same
      refine .refuse found stage there closed ?_ ?_
      · simp [sending?_dropSending]
      · simp [told, Effect.concerns]
    · refine .others ?_ ?_ ?_
      · simp [Input.isLook, same]
      · simp [sending?_dropSending, same]
      · simp [told, Effect.concerns, same]
  | @transmit caller sending n datagram result found stage =>
    by_cases same : caller = ticket
    · subst same
      refine .send found stage ?_ ?_
      · simp [sending?_dropSending]
      · simp [told, Effect.concerns]
    · refine .others rfl ?_ ?_
      · simp [sending?_dropSending, same]
      · simp [told, Effect.concerns, same]
  | @runWrapper number result =>
    refine .others rfl rfl ?_
    cases result <;> rfl
  | _ => exact .others rfl rfl rfl

/-- Every step leaves a call alone or is the next one of its own. -/
theorem step?_furthers (coherent : s.Coherent) (step : s.step? i = some (t, more))
    (other : ∀ payload, i ≠ .beginSend ticket payload) : s.Furthers ticket i t more := by
  rcases step?_tasks coherent step with detached | ⟨foreign, spares⟩
  · exact detached.furthers other
  · refine .others ?_ (by rw [sending?, sending?, spares.sendings]) (told_eq_nil spares.shown)
    cases i <;> first | rfl | contradiction

/-- The looks that a call has taken for the socket of its relay, and whether the relay was open. -/
def looks (ticket n : Nat) (passed : List Transit) : List Bool :=
  (passed.filter (·.input.isLook ticket)).filterMap fun look =>
    (look.before.relay? n).map (·.isOpen)

@[simp] lemma looks_concat (ticket n : Nat) (passed : List Transit) (last : Transit) :
    looks ticket n (passed ++ [last]) = looks ticket n passed ++
      if last.input.isLook ticket then ((last.before.relay? n).map (·.isOpen)).toList else [] := by
  rw [looks, List.filter_append, List.filterMap_append]
  cases look : last.input.isLook ticket with
  | false => simp [looks, look]
  | true => cases there : last.before.relay? n <;> simp [looks, look, there]

/-- How far a call has come that has found the relay `n`, and what has been seen of it. It looks for
the socket once. -/
inductive Dispatch (ticket : Nat) (payload : List UInt8) (n : Nat) (relay : Relay) (s : System)
    (passed : List Transit) : List Effect → Prop
  | looking : looks ticket n passed = [] → s.sending? ticket = some ⟨ticket, payload, .found n⟩ →
    Dispatch ticket payload n relay s passed []
  | refused : looks ticket n passed = [false] → s.sending? ticket = none →
    Dispatch ticket payload n relay s passed [.sendAnswered ticket (.error .noOpenConnection)]
  | holding : looks ticket n passed = [true] →
    s.sending? ticket =
      some ⟨ticket, payload, .ready n ⟨relay.socket.address, relay.server, payload⟩⟩ →
    Dispatch ticket payload n relay s passed []
  | sent {hand result} : looks ticket n passed = [true] → hand ∈ passed →
    hand.input = .transmit ticket result → s.sending? ticket = none →
    Dispatch ticket payload n relay s passed
      [.sent ticket ⟨relay.socket.address, relay.server, payload⟩,
        .sendAnswered ticket (sendResult result)]

variable {n : Nat} {relay : Relay} {account : List Effect}

lemma Dispatch.unmoved {last : Transit}
    (dispatch : Dispatch ticket payload n relay s passed account)
    (other : last.input.isLook ticket = false) (same : t.sending? ticket = s.sending? ticket) :
    Dispatch ticket payload n relay t (passed ++ [last]) account := by
  have looked : looks ticket n (passed ++ [last]) = looks ticket n passed := by simp [other]
  cases dispatch with
  | looking looks stage => exact .looking (looked.trans looks) (same.trans stage)
  | refused looks gone => exact .refused (looked.trans looks) (same.trans gone)
  | holding looks stage => exact .holding (looked.trans looks) (same.trans stage)
  | sent looks hand sends gone =>
    exact .sent (looked.trans looks) (List.mem_append_left _ hand) sends (same.trans gone)

lemma Dispatch.of_found {sending : Sending} {m : Nat}
    (dispatch : Dispatch ticket payload n relay s passed account)
    (found : s.sending? ticket = some sending) (stage : sending.stage = .found m) :
    sending = ⟨ticket, payload, .found n⟩ ∧ m = n ∧ account = [] ∧ looks ticket n passed = [] := by
  cases dispatch with
  | looking looks here =>
    obtain rfl := Option.some.inj (found.symm.trans here)
    exact ⟨rfl, (SendStage.found.inj stage).symm, rfl, looks⟩
  | holding looks here =>
    obtain rfl := Option.some.inj (found.symm.trans here)
    contradiction
  | refused looks gone | sent looks hand sends gone =>
    rw [gone] at found
    contradiction

lemma Dispatch.of_ready {sending : Sending} {m : Nat} {datagram : Relay.Datagram}
    (dispatch : Dispatch ticket payload n relay s passed account)
    (found : s.sending? ticket = some sending) (stage : sending.stage = .ready m datagram) :
    datagram = ⟨relay.socket.address, relay.server, payload⟩ ∧ account = [] ∧
      looks ticket n passed = [true] := by
  cases dispatch with
  | looking looks here =>
    obtain rfl := Option.some.inj (found.symm.trans here)
    contradiction
  | holding looks here =>
    obtain rfl := Option.some.inj (found.symm.trans here)
    exact ⟨(SendStage.ready.inj stage).2.symm, rfl, looks⟩
  | refused looks gone | sent looks hand sends gone =>
    rw [gone] at found
    contradiction

/-- The next step of a call takes it on from where it stands. -/
lemma Dispatch.step (dispatch : Dispatch ticket payload n relay s passed account)
    (becomes : ∃ later, s.relay? n = some later ∧ relay.Becomes later)
    (furthers : s.Furthers ticket i t more) :
    Dispatch ticket payload n relay t (passed ++ [⟨s, i, t, more⟩])
      (account ++ told ticket more) := by
  obtain ⟨later, found, becomes⟩ := becomes
  cases furthers with
  | others other same quiet =>
    rw [quiet, List.append_nil]
    exact dispatch.unmoved other same
  | hold call stage there isOpen held quiet =>
    obtain ⟨rfl, rfl, rfl, looked⟩ := dispatch.of_found call stage
    obtain rfl := Option.some.inj (found.symm.trans there)
    have socket : later.socket = relay.socket := by rw [← becomes.same]
    have server : later.server = relay.server := by rw [← becomes.same]
    rw [quiet]
    refine .holding ?_ ?_
    · simp [looked, Input.isLook, found, isOpen]
    · simpa [socket, server] using held
  | refuse call stage there closed gone answered =>
    obtain ⟨rfl, rfl, rfl, looked⟩ := dispatch.of_found call stage
    obtain rfl := Option.some.inj (found.symm.trans there)
    rw [answered]
    refine .refused ?_ gone
    simp [looked, Input.isLook, found, closed]
  | send call stage gone answered =>
    obtain ⟨rfl, rfl, looked⟩ := dispatch.of_ready call stage
    rw [answered]
    refine .sent ?_ (List.mem_append_right _ List.mem_cons_self) rfl gone
    simp [looked, Input.isLook]

/-- The relay of the session that is there, opened for the addressing that it was asked for. -/
structure Found (s : System) (seen : List Effect) (n : Nat) (relay : Relay) : Prop where
  current : s.shared.relay = some n
  known : s.relay? n = some relay
  /-- No relay of another session has been opened after it. -/
  newest : s.relays.length = n + 1
  session : ∃ event asked, s.shared.event = some event ∧
    (Ledger.ofHistory seen).launched = some ⟨asked, .start event s.shared.addressing⟩
  opened : ∃ taken net,
    Relay.Opens taken net s.shared.addressing (.ok { relay with isOpen := true })

/-- What becomes of a message that a call has begun to send. -/
structure Posted (start : System) (seen : List Effect) (ticket : Nat) (payload : List UInt8)
    (more : List Effect) (s : System) (passed : List Transit) : Prop where
  course :
    start.shared.relay = none ∧
        told ticket (more ++ shownIn passed) = [.sendAnswered ticket (.error .noOpenConnection)] ∨
      ∃ n relay, start.Found seen n relay ∧
        Dispatch ticket payload n relay s passed (told ticket (more ++ shownIn passed))
  /-- A call that has not returned can go on, whatever the operating system will answer. -/
  goesOn : ∀ sending, s.sending? ticket = some sending →
    (s.step? (.holdSocket ticket)).isSome = true ∨
      ∀ result, (s.step? (.transmit ticket result)).isSome = true
  /-- No caller is told that the relay is not open. -/
  renamed : ∀ caller,
    .sendAnswered caller (.error (.relay .notOpen)) ∉ seen ++ more ++ shownIn passed

variable {settings : Settings} {collaborators : Collaborators}

lemma Run.found (run : Run (fresh settings collaborators) s seen)
    (current : s.shared.relay = some n) : ∃ relay, s.Found seen n relay := by
  obtain ⟨newest, relay, taken, net, found, opened⟩ := run.moored n (.inl current)
  obtain ⟨event, there⟩ := Option.isSome_iff_exists.mp
    (run.coherent.presentable.relay_iff.symm.trans (by rw [current]; rfl))
  obtain ⟨asked, launched⟩ := run.stems.event event there
  exact ⟨relay, current, found, newest, ⟨event, asked, there, launched⟩, taken, net, opened⟩

lemma sendResult_ne_notOpen (result : Except OsError Unit) :
    sendResult result ≠ .error (.relay .notOpen) := by
  cases result with
  | ok => nofun
  | error cause => simp [sendResult, sendFailure]

lemma Run.renamed (run : Run (fresh settings collaborators) s seen) (caller : Nat) :
    .sendAnswered caller (.error (.relay .notOpen)) ∉ seen := by
  suffices never : ∀ effect ∈ seen, ∀ caller,
      effect ≠ .sendAnswered caller (.error (.relay .notOpen)) from
    fun shown => never _ shown caller rfl
  refine run.forall_shown fun {s t seen more i} run step effect shown caller told => ?_
  subst told
  rcases step?_tasks run.coherent step with detached | ⟨-, spares⟩
  · cases detached with
    | transmit result =>
      simp only [List.mem_cons, List.not_mem_nil, or_false, reduceCtorEq, false_or,
        Effect.sendAnswered.injEq] at shown
      exact sendResult_ne_notOpen result shown.2.symm
    | @runWrapper number result => cases result <;> simp [wrapperComplaint] at shown
    | _ => simp at shown
  · exact Bool.noConfusion (spares.shown _ shown)

/-- A call that is under way has a step to take. -/
lemma Dispatch.goesOn (dispatch : Dispatch ticket payload n relay s passed account)
    (becomes : ∃ later, s.relay? n = some later ∧ relay.Becomes later) {sending : Sending}
    (found : s.sending? ticket = some sending) :
    (s.step? (.holdSocket ticket)).isSome = true ∨
      ∀ result, (s.step? (.transmit ticket result)).isSome = true := by
  obtain ⟨later, there, -⟩ := becomes
  cases stage : sending.stage with
  | found m =>
    obtain ⟨rfl, rfl, -⟩ := dispatch.of_found found stage
    refine .inl ?_
    cases outbound : later.outbound payload <;> simp [step?, holdSocket, found, there, outbound]
  | ready m datagram =>
    refine .inr fun result => ?_
    simp [step?, transmit, found, stage]

/-- Nothing is seen of a call that is not under way. -/
lemma Passage.silent {start : System} (run : Run (fresh settings collaborators) start seen)
    (unused : start.sending? ticket = .none) (passage : Passage start s passed)
    (once : ∀ transit ∈ passed, ∀ other, transit.input ≠ .beginSend ticket other) :
    s.sending? ticket = .none ∧ told ticket (shownIn passed) = [] := by
  induction passage with
  | none => exact ⟨unused, rfl⟩
  | step passage step ih =>
    obtain ⟨before, last⟩ := List.forall_mem_append.mp once
    obtain ⟨unused, quiet⟩ := ih before
    rw [shownIn_append, shownIn_singleton, told_append, quiet]
    cases step?_furthers (passage.run run).coherent step (List.forall_mem_singleton.mp last) with
    | others other same told => exact ⟨same.trans unused, told⟩
    | hold found | refuse found | send found =>
      rw [unused] at found
      contradiction

lemma Passage.dispatch {start : System} (run : Run (fresh settings collaborators) start seen)
    (found : start.relay? n = some relay)
    (begun : start.sending? ticket = some ⟨ticket, payload, .found n⟩)
    (passage : Passage start s passed)
    (once : ∀ transit ∈ passed, ∀ other, transit.input ≠ .beginSend ticket other) :
    Dispatch ticket payload n relay s passed (told ticket (shownIn passed)) := by
  induction passage with
  | none => exact .looking rfl begun
  | step passage step ih =>
    obtain ⟨before, last⟩ := List.forall_mem_append.mp once
    rw [shownIn_append, shownIn_singleton, told_append]
    exact (ih before).step (passage.becomes run found)
      (step?_furthers (passage.run run).coherent step (List.forall_mem_singleton.mp last))

/-- Whatever happens to the sessions meanwhile, a message goes to the server of the session whose
relay its call has found, or nowhere. -/
theorem Passage.posted {start opened : System}
    (run : Run (fresh settings collaborators) start seen)
    (begun : start.step? (.beginSend ticket payload) = some (opened, more))
    (unused : start.sending? ticket = .none) (passage : Passage opened s passed)
    (once : ∀ transit ∈ passed, ∀ other, transit.input ≠ .beginSend ticket other) :
    Posted start seen ticket payload more s passed := by
  have going := run.step begun
  have renamed := (passage.run going).renamed
  cases step?_detached rfl begun with
  | unconnected free vacant =>
    obtain ⟨gone, quiet⟩ := passage.silent going unused once
    refine ⟨.inl ⟨vacant, ?_⟩, fun sending found => ?_, renamed⟩
    · rw [told_append, quiet]
      simp [told, Effect.concerns]
    · rw [gone] at found
      contradiction
  | @beginSend _ _ n free current =>
    obtain ⟨relay, found⟩ := run.found current
    have looking : ({ start with sendings := start.sendings ++ [⟨ticket, payload, .found n⟩] } :
        System).sending? ticket = some ⟨ticket, payload, .found n⟩ := by
      simp [sending?_add, unused]
    have dispatch := passage.dispatch going found.known looking once
    exact ⟨.inr ⟨n, relay, found, dispatch⟩,
      fun sending => dispatch.goesOn (passage.becomes going found.known), renamed⟩

/-- A message is on its way while its session ends and another begins at other addresses. -/
theorem posted_late :
    ∃ start seen opened s passed,
      Run (fresh .standard ⟨false, false⟩) start seen ∧
      start.step? (.beginSend 50 [200, 7]) = some (opened, []) ∧
      start.sending? 50 = .none ∧ Passage opened s passed ∧
      (∀ transit ∈ passed, ∀ other, transit.input ≠ .beginSend 50 other) ∧
      Posted start seen 50 [200, 7] [] s passed ∧
      s.currentRelay?.map (·.server) = some ⟨.loopback, 9002⟩ ∧
      told 50 (shownIn passed) =
        [.sent 50 ⟨⟨.loopback, 9001⟩, ⟨.loopback, 9000⟩, [200, 7]⟩, .sendAnswered 50 (.ok ())] := by
  obtain ⟨⟨start, seen⟩, launched, opened, ⟨s, shown⟩, begun, steps, unused, server, account⟩ :
      ∃ start ∈ (fresh .standard ⟨false, false⟩).steps?
        (launchInputs ⟨1, .start ⟨"race"⟩ (.direct ":9000" 9001)⟩),
      ∃ opened out, start.1.step? (.beginSend 50 [200, 7]) = some (opened, []) ∧
        opened.steps? ([.holdSocket 50] ++ exitInputs 1 0 ++
          launchInputs ⟨2, .start ⟨"night"⟩ (.direct ":9002" 9003)⟩ ++
          [.transmit 50 (.ok ())]) = some out ∧
        start.1.sending? 50 = .none ∧
        out.1.currentRelay?.map (·.server) = some ⟨.loopback, 9002⟩ ∧
        told 50 out.2 = [.sent 50 ⟨⟨.loopback, 9001⟩, ⟨.loopback, 9000⟩, [200, 7]⟩,
          .sendAnswered 50 (.ok ())] := by
    exact ⟨_, rfl, _, _, rfl, rfl, rfl, rfl, rfl⟩
  obtain ⟨passed, passage, rfl, inputs⟩ := Passage.of_inputs steps
  have run := Run.none.steps launched
  have once : ∀ transit ∈ passed, ∀ other, transit.input ≠ .beginSend 50 other := by
    intro transit member other same
    have given := List.mem_map_of_mem (f := Transit.input) member
    rw [inputs, same] at given
    simp [exitInputs, launchInputs] at given
  exact ⟨start, _, opened, s, passed, run, begun, unused, passage, once,
    passage.posted run begun unused once, server, account⟩

end System
end RaceControl
