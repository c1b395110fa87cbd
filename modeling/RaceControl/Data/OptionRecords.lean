import RaceControl.Data.Datum
import RaceControl.Options
import RaceControl.Plugin

/-!
Plugins and options as data: reading them from a record or from the list of their members.
-/
namespace RaceControl
open Datum

def Port.ofDatum? (d : Datum) : Option Port := (d.below? UInt16.size).map UInt16.ofNat

def Plugin.memberNames : List String := ["executable", "arguments"]

def Plugin.ofDatum? (d : Datum) : Option Plugin := do
  match ← d.align? memberNames with
  | [executable, arguments] =>
    let executable ← (← executable).text?
    let arguments ← member? (listOf? text?) [] arguments
    return ⟨executable, arguments⟩
  | _ => none

def ServerOptions.memberNames : List String :=
  ["udp_plugin_address", "udp_plugin_local_port", "enable_content_manager_wrapper",
   "content_manager_wrapper_port"]

def ServerOptions.ofDatum? (d : Datum) : Option ServerOptions := do
  match ← d.align? memberNames with
  | [address, localPort, wrapper, wrapperPort] =>
    return {
      udpPluginAddress := ← member? text? "" address
      udpPluginLocalPort := ← member? Port.ofDatum? 0 localPort
      enableContentManagerWrapper := ← member? bool? false wrapper
      contentManagerWrapperPort := ← member? Port.ofDatum? 0 wrapperPort }
  | _ => none

def TrackerOptions.memberNames : List String :=
  ["enable_stracker", "send_port", "receive_port", "listening_port"]

def TrackerOptions.ofDatum? (d : Datum) : Option TrackerOptions := do
  match ← d.align? memberNames with
  | [enabled, send, receive, listening] =>
    return {
      enabled := ← member? bool? false enabled
      sendPort := ← member? Port.ofDatum? 0 send
      receivePort := ← member? Port.ofDatum? 0 receive
      listeningPort := ← member? Port.ofDatum? 0 listening }
  | _ => none

def Port.toDatum (p : Port) : Datum := .int p.toNat

def Plugin.toDatum (p : Plugin) : Datum :=
  .record (memberNames.zip [.text p.executable.text, .list (p.arguments.map .text)])

def ServerOptions.toDatum (o : ServerOptions) : Datum :=
  .record (memberNames.zip [.text o.udpPluginAddress, o.udpPluginLocalPort.toDatum,
    .bool o.enableContentManagerWrapper, o.contentManagerWrapperPort.toDatum])

def TrackerOptions.toDatum (o : TrackerOptions) : Datum :=
  .record (memberNames.zip [.bool o.enabled, o.sendPort.toDatum, o.receivePort.toDatum,
    o.listeningPort.toDatum])

end RaceControl
