import Mathlib.Tactic.Common
import RaceControl.Relay

/-!
Where the opening of a relay can fail. The first fault on the way is the one that is reported. A
relay is opened where sockets are taken already; whether they are its program's own or those of
others makes no difference.
-/
namespace RaceControl

/-- The same network for one who does not know of so many sockets that are taken. -/
def NetworkView.avoiding (net : NetworkView) (others : List Socket) : NetworkView :=
  { net with refuse := fun address =>
      if others.any (·.address.clashes address) then some .addressInUse else net.refuse address }

lemma Socket.bind_append (others taken : List Socket) (net : NetworkView)
    (wanted : SocketAddress) :
    Socket.bind (others ++ taken) net wanted = Socket.bind taken (net.avoiding others) wanted := by
  obtain ⟨address, given⟩ : ∃ address,
      address = if wanted.port = 0 then { wanted with port := net.anyPort } else wanted := ⟨_, rfl⟩
  simp only [Socket.bind, List.any_append, NetworkView.avoiding, ← given]
  cases others.any (·.address.clashes address) <;>
    cases taken.any (·.address.clashes address) <;> rfl

namespace Relay
variable {net : NetworkView} {addressing : Addressing} {taken : List Socket} {relay : Relay}
  {e : RelayError}

/-- What is looked at when a relay is opened. -/
inductive OpeningPoint
  | address
  | host
  | socket
  | forwardAddress
  | forwardHost
  | forwardSocket
  deriving DecidableEq, Repr

/-- In the order in which it is looked at. -/
def OpeningPoint.all : List OpeningPoint :=
  [.address, .host, .socket, .forwardAddress, .forwardHost, .forwardSocket]

/-- What is wrong with the text of an address. -/
def textFault? (text : String) : Option RelayError :=
  match Address.parse text with
  | .error fault => some (.invalidAddress text fault.reason)
  | .ok _ => none

/-- Whether the host of an address is unknown. -/
def hostFault? (net : NetworkView) (text : String) : Option RelayError :=
  match Address.parse text with
  | .error _ => none
  | .ok address =>
    if (net.resolve address.host).isNone then some (.unresolved address.name) else none

/-- Why no socket can be bound. -/
def bindFault? (taken : List Socket) (net : NetworkView) (wanted : SocketAddress) :
    Option RelayError :=
  match Socket.bind taken net wanted with
  | .error cause => some (.bind wanted cause)
  | .ok _ => none

/-- The sockets that are taken once the main socket has been bound. -/
def mainBound? (taken : List Socket) (net : NetworkView) (addressing : Addressing) :
    Option (List Socket) :=
  match locate net addressing.pluginAddress with
  | .error _ => none
  | .ok server =>
    (Socket.bind taken net ⟨server.ip, addressing.localPort⟩).toOption.map fun socket =>
      taken ++ [socket]

/-- What fails at a point, if all that is looked at before is as it should be. -/
def fault? (taken : List Socket) (net : NetworkView) (addressing : Addressing) :
    OpeningPoint → Option RelayError
  | .address => textFault? addressing.pluginAddress
  | .host => hostFault? net addressing.pluginAddress
  | .socket =>
    match locate net addressing.pluginAddress with
    | .error _ => none
    | .ok server => bindFault? taken net ⟨server.ip, addressing.localPort⟩
  | .forwardAddress => addressing.forwardTarget?.bind fun target => textFault? target.address
  | .forwardHost => addressing.forwardTarget?.bind fun target => hostFault? net target.address
  | .forwardSocket =>
    addressing.forwardTarget?.bind fun target =>
      (mainBound? taken net addressing).bind (bindFault? · net ⟨.unspecified, target.listenPort⟩)

def firstFault? (taken : List Socket) (net : NetworkView) (addressing : Addressing) :
    Option (OpeningPoint × RelayError) :=
  OpeningPoint.all.findSome? fun point =>
    (fault? taken net addressing point).map (point, ·)

lemma faults_of_locate_error {text : String} (failed : locate net text = .error e) :
    textFault? text = some e ∨ textFault? text = none ∧ hostFault? net text = some e := by
  unfold locate at failed
  cases parsed : Address.parse text with
  | error fault =>
    rw [parsed] at failed
    cases failed
    exact .inl (by simp [textFault?, parsed])
  | ok address =>
    cases known : net.resolve address.host with
    | none =>
      simp only [parsed, known] at failed
      cases failed
      exact .inr (by simp [textFault?, hostFault?, parsed, known])
    | some ip => simp [parsed, known] at failed

lemma faults_of_locate_ok {text : String} {found : SocketAddress}
    (located : locate net text = .ok found) :
    textFault? text = none ∧ hostFault? net text = none := by
  unfold locate at located
  cases parsed : Address.parse text with
  | error fault => simp [parsed] at located
  | ok address =>
    cases known : net.resolve address.host with
    | none => simp [parsed, known] at located
    | some ip => simp [textFault?, hostFault?, parsed, known]

/-- The ways in which opening a relay ends. -/
inductive Opens (taken : List Socket) (net : NetworkView) (addressing : Addressing) :
    Except RelayError Relay → Prop
  | lost {e : RelayError} : locate net addressing.pluginAddress = .error e →
    Opens taken net addressing (.error e)
  | refused {server cause} : locate net addressing.pluginAddress = .ok server →
    Socket.bind taken net ⟨server.ip, addressing.localPort⟩ = .error cause →
    Opens taken net addressing (.error (.bind ⟨server.ip, addressing.localPort⟩ cause))
  | plain {server socket} : locate net addressing.pluginAddress = .ok server →
    Socket.bind taken net ⟨server.ip, addressing.localPort⟩ = .ok socket →
    addressing.forwardTarget? = none →
    Opens taken net addressing (.ok ⟨server, socket, none, true⟩)
  | forwardLost {server socket target} {e : RelayError} :
    locate net addressing.pluginAddress = .ok server →
    Socket.bind taken net ⟨server.ip, addressing.localPort⟩ = .ok socket →
    addressing.forwardTarget? = some target → locate net target.address = .error e →
    Opens taken net addressing (.error e)
  | forwardRefused {server socket target destination cause} :
    locate net addressing.pluginAddress = .ok server →
    Socket.bind taken net ⟨server.ip, addressing.localPort⟩ = .ok socket →
    addressing.forwardTarget? = some target → locate net target.address = .ok destination →
    Socket.bind (taken ++ [socket]) net ⟨.unspecified, target.listenPort⟩ = .error cause →
    Opens taken net addressing (.error (.bind ⟨.unspecified, target.listenPort⟩ cause))
  | forwarded {server socket target destination reply} :
    locate net addressing.pluginAddress = .ok server →
    Socket.bind taken net ⟨server.ip, addressing.localPort⟩ = .ok socket →
    addressing.forwardTarget? = some target → locate net target.address = .ok destination →
    Socket.bind (taken ++ [socket]) net ⟨.unspecified, target.listenPort⟩ = .ok reply →
    Opens taken net addressing (.ok ⟨server, socket, some ⟨reply, destination⟩, true⟩)

lemma open?_opens (taken : List Socket) (net : NetworkView) (addressing : Addressing) :
    Opens taken net addressing (open? taken net addressing) := by
  unfold open?
  simp only [Bind.bind, Except.bind, pure, Except.pure]
  cases located : locate net addressing.pluginAddress with
  | error e => exact .lost located
  | ok server =>
    cases main : Socket.bind taken net ⟨server.ip, addressing.localPort⟩ with
    | error cause => simpa [Relay.bind, main] using Opens.refused located main
    | ok socket =>
      simp only [Relay.bind, main]
      cases wanted : addressing.forwardTarget? with
      | none => exact .plain located main wanted
      | some target =>
        simp only [openForwarding, Bind.bind, Except.bind, pure, Except.pure]
        cases forward : locate net target.address with
        | error e => exact .forwardLost located main wanted forward
        | ok destination =>
          cases second : Socket.bind (taken ++ [socket]) net ⟨.unspecified, target.listenPort⟩ with
          | error cause =>
            simpa [Relay.bind, second] using Opens.forwardRefused located main wanted forward second
          | ok reply =>
            simpa [Relay.bind, second] using Opens.forwarded located main wanted forward second

lemma opens_of_open? {result : Except RelayError Relay}
    (opened : open? taken net addressing = result) : Opens taken net addressing result :=
  opened ▸ open?_opens taken net addressing

lemma isOpen_of_open? (opened : open? taken net addressing = .ok relay) :
    relay.isOpen = true := by
  cases opens_of_open? opened <;> rfl

/-- The first fault decides whether a relay is opened, and what is reported. -/
lemma Opens.firstFault? {result : Except RelayError Relay}
    (opens : Opens taken net addressing result) :
    (firstFault? taken net addressing).map (·.2) =
      match result with
      | .error e => some e
      | .ok _ => none := by
  unfold Relay.firstFault? OpeningPoint.all
  cases opens with
  | lost located =>
    rcases faults_of_locate_error located with text | ⟨text, host⟩
    · simp [fault?, text]
    · simp [fault?, text, host]
  | refused located main =>
    obtain ⟨text, host⟩ := faults_of_locate_ok located
    simp [fault?, text, host, located, bindFault?, main]
  | plain located main wanted =>
    obtain ⟨text, host⟩ := faults_of_locate_ok located
    simp [fault?, text, host, located, bindFault?, main, wanted]
  | forwardLost located main wanted forward =>
    obtain ⟨text, host⟩ := faults_of_locate_ok located
    rcases faults_of_locate_error forward with other | ⟨other, unknown⟩
    · simp [fault?, text, host, located, bindFault?, main, wanted, other]
    · simp [fault?, text, host, located, bindFault?, main, wanted, other, unknown]
  | forwardRefused located main wanted forward second =>
    obtain ⟨text, host⟩ := faults_of_locate_ok located
    obtain ⟨other, known⟩ := faults_of_locate_ok forward
    simp [fault?, text, host, located, bindFault?, main, wanted, other, known, mainBound?,
      Except.toOption, second]
  | forwarded located main wanted forward second =>
    obtain ⟨text, host⟩ := faults_of_locate_ok located
    obtain ⟨other, known⟩ := faults_of_locate_ok forward
    simp [fault?, text, host, located, bindFault?, main, wanted, other, known, mainBound?,
      Except.toOption, second]

lemma bind_append (others taken : List Socket) (net : NetworkView) (wanted : SocketAddress) :
    bind (others ++ taken) net wanted = bind taken (net.avoiding others) wanted := by
  simp only [bind, Socket.bind_append]

/-- Sockets that are taken stand in the way of a relay as those of other programs do. -/
lemma open?_append (others taken : List Socket) (net : NetworkView) (addressing : Addressing) :
    open? (others ++ taken) net addressing = open? taken (net.avoiding others) addressing := by
  simp only [open?, openForwarding, List.append_assoc, bind_append]
  rfl

end Relay
end RaceControl
