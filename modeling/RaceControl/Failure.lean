import RaceControl.Address
import RaceControl.OsError
import RaceControl.Path
import RaceControl.SocketAddress

/-!
What can go wrong with the relay, with a process and with a request to the supervisor. Each failure
is a cause; its text is derived from it.
-/
namespace RaceControl

inductive RelayError
  | invalidAddress (address reason : String)
  | unresolved (name : String)
  | bind (address : SocketAddress) (cause : OsError)
  | notOpen
  | send (cause : OsError)
  deriving DecidableEq, Repr, Inhabited

namespace RelayError

def message : RelayError → String
  | .invalidAddress address reason => s!"invalid UDP plugin address '{address}': {reason}"
  | .unresolved name => s!"could not resolve '{name}'"
  | .bind address cause => s!"failed to bind UDP socket on {address.text}: {cause.message}"
  | .notOpen => "no open UDP connection"
  | .send cause => s!"failed to send UDP message: {cause.message}"

end RelayError

inductive ProcessError
  | unresolved (executable : Path) (cause : OsError)
  | spawn (program : Path) (cause : OsError)
  | termination (pid : Nat) (reason : String)
  deriving DecidableEq, Repr, Inhabited

namespace ProcessError

def message : ProcessError → String
  | .unresolved executable cause =>
    s!"could not resolve executable '{executable.text}': {cause.message}"
  | .spawn program cause => s!"failed to spawn process '{program.text}': {cause.message}"
  | .termination pid reason => s!"failed to terminate process {pid}: {reason}"

end ProcessError

/-- The ways a request to the supervisor fails. -/
inductive SupervisorError
  | stopTimeout
  | noOpenConnection
  | nothingToRestart
  | loopClosed
  | store (cause : String)
  | relay (cause : RelayError)
  | process (cause : ProcessError)
  | io (cause : OsError)
  deriving DecidableEq, Repr, Inhabited

namespace SupervisorError

def message : SupervisorError → String
  | .stopTimeout =>
    "server process did not stop even after manual kill. please check your server configuration"
  | .noOpenConnection => "no open UDP connection found"
  | .nothingToRestart => "no race event to restart"
  | .loopClosed => "supervisor control loop is no longer running"
  | .store cause => s!"could not load server options: {cause}"
  | .relay cause => cause.message
  | .process cause => cause.message
  | .io cause => cause.message

/-- A fixed word per kind of failure, for programs. A relay address that cannot be read has its
own. -/
def code : SupervisorError → String
  | .stopTimeout => "STOP_TIMEOUT"
  | .noOpenConnection => "NO_OPEN_UDP_CONNECTION"
  | .nothingToRestart => "NOTHING_TO_RESTART"
  | .loopClosed => "CONTROL_LOOP_CLOSED"
  | .store _ => "STORE_ERROR"
  | .relay (.invalidAddress ..) => "INVALID_UDP_ADDRESS"
  | .relay _ => "UDP_RELAY_ERROR"
  | .process _ => "PROCESS_ERROR"
  | .io _ => "IO_ERROR"

/-- True when a session may still be running after the failure. -/
def isAmbiguous : SupervisorError → Bool
  | .stopTimeout => true
  | _ => false

end SupervisorError
end RaceControl
