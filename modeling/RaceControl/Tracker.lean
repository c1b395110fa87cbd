import RaceControl.Options
import RaceControl.Plugin

/-!
Preparing the timing tracker: its configuration is written with the ports of the server's plugin
protocol before it may be started.
-/
namespace RaceControl

/-- An installation of the tracker. -/
structure Tracker where
  installed : Bool
  executable : Path
  folder : Path
  deriving DecidableEq, Repr, Inhabited

inductive TrackerError
  | requiresUdpConfiguration
  | writeConfig (cause : String)
  deriving DecidableEq, Repr

def TrackerError.message : TrackerError → String
  | .requiresUdpConfiguration =>
    "sTracker requires the UDP plugin address and local port to be configured"
  | .writeConfig cause => s!"could not write sTracker configuration: {cause}"

namespace Tracker

def configName : Path := "stracker.ini"

/-- The options to write: the tracker sends to the server's local port and receives on the port of
the server's plugin address. Without both there is no configuration. -/
def config? (server : ServerOptions) (options : TrackerOptions) : Option TrackerOptions :=
  match Address.parse server.udpPluginAddress with
  | .error _ => none
  | .ok address =>
    if server.udpPluginLocalPort = 0 then none
    else some { options with sendPort := server.udpPluginLocalPort, receivePort := address.port }

/-- The command that runs the tracker on its configuration. -/
def command (t : Tracker) : Plugin :=
  ⟨t.executable, ["--stracker_ini", (t.folder.join configName).text]⟩

/-- Writes the configuration and names the command. `write` is the attempt to write, which may fail
with a text. -/
def prepare (t : Tracker) (server : ServerOptions) (options : TrackerOptions)
    (write : TrackerOptions → Except String Unit) : Except TrackerError (Plugin × TrackerOptions) :=
  match config? server options with
  | none => .error .requiresUdpConfiguration
  | some config =>
    match write config with
    | .error cause => .error (.writeConfig cause)
    | .ok () => .ok (t.command, config)

end Tracker
end RaceControl
