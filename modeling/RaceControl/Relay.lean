import RaceControl.Addressing
import RaceControl.Failure
import RaceControl.Relay.Sockets

/-!
The relay between the server's plugin protocol and the supervisor. Its main socket receives the
events of the server and sends messages to it; where events are forwarded, a second socket listens
for the replies of the destination. A socket stays bound as long as somebody holds it, which may be
longer than the relay is open.
-/
namespace RaceControl

/-- The forwarding half of a relay. -/
structure Forwarding where
  socket : Socket
  target : SocketAddress
  deriving DecidableEq, Repr, Inhabited

structure Relay where
  server : SocketAddress
  socket : Socket
  forwarding : Option Forwarding
  isOpen : Bool
  deriving DecidableEq, Repr, Inhabited

/-- The loops of a relay. Each runs in a task of its own. -/
inductive RelayLoop
  /-- Receives the events of the server. -/
  | receiving
  /-- Returns the replies of the destination that events are forwarded to. -/
  | returning
  deriving DecidableEq, Repr, Inhabited

/-- Who can hold a socket of a relay. -/
inductive Holder
  /-- The relay itself, as long as it is open. -/
  | relay
  /-- A task that has not ended. -/
  | task (loop : RelayLoop)
  /-- A message that is about to leave, by the ticket of its caller. -/
  | message (ticket : Nat)
  deriving DecidableEq, Repr, Inhabited

namespace Relay

/-- The socket address that a text `host:port` names. -/
def locate (net : NetworkView) (text : String) : Except RelayError SocketAddress :=
  match Address.parse text with
  | .error fault => .error (.invalidAddress text fault.reason)
  | .ok address =>
    match net.resolve address.host with
    | none => .error (.unresolved address.name)
    | some ip => .ok ⟨ip, address.port⟩

def bind (taken : List Socket) (net : NetworkView) (wanted : SocketAddress) :
    Except RelayError Socket :=
  match Socket.bind taken net wanted with
  | .error cause => .error (.bind wanted cause)
  | .ok socket => .ok socket

/-- The forwarding half: the destination is located before the socket for its replies is bound. -/
def openForwarding (taken : List Socket) (net : NetworkView) (target : ForwardTarget) :
    Except RelayError Forwarding := do
  let destination ← locate net target.address
  let socket ← bind taken net ⟨.unspecified, target.listenPort⟩
  return ⟨socket, destination⟩

/-- Opens a relay where so many sockets are taken already. If the forwarding half fails nobody holds
the main socket any more. -/
def open? (taken : List Socket) (net : NetworkView) (addressing : Addressing) :
    Except RelayError Relay := do
  let server ← locate net addressing.pluginAddress
  let socket ← bind taken net ⟨server.ip, addressing.localPort⟩
  match addressing.forwardTarget? with
  | none => return ⟨server, socket, none, true⟩
  | some target =>
    let forwarding ← openForwarding (taken ++ [socket]) net target
    return ⟨server, socket, some forwarding, true⟩

def sockets (r : Relay) : List Socket := r.socket :: (r.forwarding.map (·.socket)).toList

/-- The loops that run from the opening of a relay on. -/
def loops (r : Relay) : List RelayLoop :=
  .receiving :: if r.forwarding.isSome then [.returning] else []

/-- The sockets that a holder keeps bound. The tasks hold all of them, and they alone hold the one
for replies. -/
def heldBy (r : Relay) : Holder → List Socket
  | .task _ => r.sockets
  | .relay | .message _ => [r.socket]

/-- Closes a relay, which lets go of its main socket and asks its tasks to end. Closing twice is
closing once. -/
def close (r : Relay) : Relay := { r with isOpen := false }

/-- A message as it leaves through the main socket. -/
structure Datagram where
  source : SocketAddress
  destination : SocketAddress
  payload : List UInt8
  deriving DecidableEq, Repr, Inhabited

/-- The datagram by which a message reaches the server. A closed relay sends none. -/
def outbound (r : Relay) (payload : List UInt8) : Except RelayError Datagram :=
  if r.isOpen then .ok ⟨r.socket.address, r.server, payload⟩ else .error .notOpen

end Relay
end RaceControl
