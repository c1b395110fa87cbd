import RaceControl.Address

/-!
Options that a launch reads from a store: those of the server and those of the timing tracker.
-/
namespace RaceControl

structure ServerOptions where
  udpPluginAddress : String
  udpPluginLocalPort : Port
  enableContentManagerWrapper : Bool
  contentManagerWrapperPort : Port
  deriving DecidableEq, Repr, Inhabited

def ServerOptions.unset : ServerOptions := ⟨"", 0, false, 0⟩

structure TrackerOptions where
  enabled : Bool
  sendPort : Port
  receivePort : Port
  listeningPort : Port
  deriving DecidableEq, Repr, Inhabited

def TrackerOptions.unset : TrackerOptions := ⟨false, 0, 0, 0⟩

/-- Options kept in memory. They can be replaced at any time; the next launch reads them. -/
structure OptionStore where
  server : ServerOptions
  tracker : Option TrackerOptions
  deriving DecidableEq, Repr, Inhabited

namespace OptionStore

def setServer (s : OptionStore) (options : ServerOptions) : OptionStore :=
  { s with server := options }

def setTracker (s : OptionStore) (options : Option TrackerOptions) : OptionStore :=
  { s with tracker := options }

def loadServer (s : OptionStore) : Except String ServerOptions := .ok s.server

def loadTracker (s : OptionStore) : Except String TrackerOptions :=
  match s.tracker with
  | some options => .ok options
  | none => .error "sTracker options not configured"

end OptionStore
end RaceControl
