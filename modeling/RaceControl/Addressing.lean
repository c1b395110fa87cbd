import RaceControl.Address

/-!
Where the datagrams of one session go: the server's plugin address, the local port its events
arrive on, and a second destination that receives a copy of every event.
-/
namespace RaceControl

/-- A second destination for server events. -/
structure ForwardTarget where
  address : String
  /-- Local port on which replies of the destination arrive. -/
  listenPort : Port
  deriving DecidableEq, Repr

structure Addressing where
  pluginAddress : String
  localPort : Port
  /-- Empty when nothing is forwarded. -/
  forwardAddress : String
  /-- Zero when nothing is forwarded. -/
  forwardListenPort : Port
  deriving DecidableEq, Repr, Inhabited

namespace Addressing

/-- The addressing of a supervisor that has not been asked for a session yet. -/
def unset : Addressing := ⟨"", 0, "", 0⟩

def direct (pluginAddress : String) (localPort : Port) : Addressing :=
  { unset with pluginAddress, localPort }

def withForwarding (a : Addressing) (address : String) (listenPort : Port) : Addressing :=
  { a with forwardAddress := address, forwardListenPort := listenPort }

/-- Forwarding takes both an address and a port to listen on. -/
def forwardTarget? (a : Addressing) : Option ForwardTarget :=
  if a.forwardAddress = "" ∨ a.forwardListenPort = 0 then none
  else some ⟨a.forwardAddress, a.forwardListenPort⟩

end Addressing
end RaceControl
