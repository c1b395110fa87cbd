import RaceControl.OsError
import RaceControl.SocketAddress

/-!
The datagram sockets of this program. A port can be taken twice only by sockets neither of which
receives what is sent to the other.
-/
namespace RaceControl

/-- What the network around the program answers at one moment. -/
structure NetworkView where
  /-- The first address of a host, if its name can be resolved. -/
  resolve : String → Option IpAddress
  /-- Why an address cannot be bound, apart from the sockets of this program. -/
  refuse : SocketAddress → Option OsError
  /-- The port given to a socket that asks for any. -/
  anyPort : Port

/-- A bound socket, with the address that it has been given. -/
structure Socket where
  address : SocketAddress
  deriving DecidableEq, Repr, Inhabited

namespace IpAddress

/-- The version four address that one of version six may embed is what is bound. -/
def plain : IpAddress → IpAddress
  | .v6 [0, 0, 0, 0, 0, 0xffff, hi, lo] _ =>
    .v4 (hi >>> 8).toUInt8 hi.toUInt8 (lo >>> 8).toUInt8 lo.toUInt8
  | ip => ip

/-- Whether what is sent to the second address reaches a socket of the first. The unspecified
address of version four receives for all of that version, that of version six for all there are. -/
def covers (a b : IpAddress) : Bool :=
  match a.plain, b.plain with
  | .v6 [0, 0, 0, 0, 0, 0, 0, 0] _, _ => true
  | .v4 0 0 0 0, .v4 .. => true
  | a, b => a == b

end IpAddress

/-- Whether two addresses exclude each other. -/
def SocketAddress.clashes (a b : SocketAddress) : Bool :=
  a.port == b.port && (a.ip.covers b.ip || b.ip.covers a.ip)

namespace Socket

/-- Binds a socket where so many are taken already. -/
def bind (taken : List Socket) (net : NetworkView) (wanted : SocketAddress) :
    Except OsError Socket :=
  let address := if wanted.port = 0 then { wanted with port := net.anyPort } else wanted
  if taken.any (·.address.clashes address) then .error .addressInUse
  else
    match net.refuse address with
    | some cause => .error cause
    | none => .ok ⟨address⟩

end Socket
end RaceControl
