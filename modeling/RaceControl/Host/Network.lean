import RaceControl.Relay.Sockets

/-!
The network that the machine is attached to: sockets of other programs, the names it can resolve,
and whether datagrams leave it.
-/
namespace RaceControl.Host

structure Network where
  /-- Sockets of other programs. -/
  occupied : List SocketAddress
  /-- Why no datagram can be sent, if that is so. -/
  outage : Option OsError
  /-- The next port to give to a socket that asks for any. -/
  nextPort : Port
  deriving Repr, Inhabited

namespace Network

/-- One part of a number address: decimal, octal behind a zero, hexadecimal behind `0x`. -/
def part? (text : List Char) : Option Nat :=
  match text with
  | '0' :: 'x' :: ds => IpAddress.digits? 16 ds
  | '0' :: 'X' :: ds => IpAddress.digits? 16 ds
  | ['0'] => some 0
  | '0' :: ds => IpAddress.digits? 8 ds
  | ds => IpAddress.digits? 10 ds

/-- An address of up to four numbers, of which the last fills the bytes that are left. -/
def numberAddress? (text : List Char) : Option IpAddress := do
  let parts ← (text.splitOn '.').mapM part?
  let last ← parts.getLast?
  let front := parts.dropLast
  if front.length > 3 ∨ front.any (· > 255) ∨ last ≥ Nat.pow 256 (4 - front.length) then none
  else
    let n := front.foldl (fun n part => n * 256 + part) 0 * Nat.pow 256 (4 - front.length) + last
    some (.v4 (UInt8.ofNat (n >>> 24)) (UInt8.ofNat ((n >>> 16) % 256))
      (UInt8.ofNat ((n >>> 8) % 256)) (UInt8.ofNat (n % 256)))

/-- The address of a host. Apart from this machine's own name only numbers can be resolved. -/
def resolve (host : String) : Option IpAddress :=
  if host = "localhost" then some .loopback
  else (IpAddress.v4? host.toList).orElse fun () => numberAddress? host.toList

def view (n : Network) : NetworkView where
  resolve := resolve
  refuse := fun address =>
    if n.occupied.any (·.clashes address) then some .addressInUse else none
  anyPort := n.nextPort

/-- The network once a port has been given away. -/
def afterBinding (n : Network) : Network := { n with nextPort := n.nextPort + 1 }

/-- What the operating system answers to a datagram that is to be sent. -/
def transmit (n : Network) : Except OsError Unit :=
  match n.outage with
  | some cause => .error cause
  | none => .ok ()

end Network
end RaceControl.Host
