import RaceControl.Host.Network
import RaceControl.Relay.Traffic

/-!
A relay on a network, without a supervisor.
-/
namespace RaceControl.Rehearsal
open Host

structure RelayTrial where
  network : Network
  relay : Option Relay
  deriving Inhabited

namespace RelayTrial

def fresh (network : Network) : RelayTrial := ⟨network, none⟩

/-- Closes the relay. -/
def close (t : RelayTrial) : RelayTrial := { t with relay := t.relay.map Relay.close }

/-- Opens a relay in place of the one there is, once the tasks of that have ended. -/
def reopen (t : RelayTrial) (addressing : Addressing) : Except RelayError Relay × RelayTrial :=
  match Relay.open? [] t.network.view addressing with
  | .ok relay => (.ok relay, ⟨t.network.afterBinding, some relay⟩)
  | .error e => (.error e, { t with relay := none })

/-- Sends a message through a relay. -/
def send (network : Network) (relay : Relay) (payload : List UInt8) :
    Except RelayError Relay.Datagram :=
  match relay.outbound payload, network.transmit with
  | .error e, _ => .error e
  | .ok _, .error cause => .error (.send cause)
  | .ok datagram, .ok () => .ok datagram

end RelayTrial
end RaceControl.Rehearsal
