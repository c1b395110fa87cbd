import RaceControl.Journal
import RaceControl.ProcessSpec

/-!
The processes started beside the server of one session. They are kept in the order of their starts
and are killed and forgotten together.
-/
namespace RaceControl

/-- A process started beside the server, with its serial number among all of them. -/
structure Child where
  serial : Nat
  name : String
  pid : Nat
  deriving DecidableEq, Repr, Inhabited

structure Children where
  tracked : List Child
  nextSerial : Nat
  deriving DecidableEq, Repr, Inhabited

/-- What came of a start: the child with the way it was started, or the failure, and the warnings
on the way. -/
structure ChildStart where
  result : Except ProcessError (Child × ProcessSpec)
  warnings : List LogEntry

namespace Children

def none : Children := ⟨[], 0⟩

def count (c : Children) : Nat := c.tracked.length

/-- Starts a plugin in its own directory and keeps track of it. -/
def start (c : Children) (cwd : Except OsError Path) (spawn : ProcessSpec → Except OsError Nat)
    (plugin : Plugin) (fallback : Path) : ChildStart × Children :=
  match plugin.locate cwd with
  | .error e => (⟨.error e, []⟩, c)
  | .ok executable =>
    let (spec, usesFallback) := plugin.spec executable fallback
    let warnings := if usesFallback then [.directoryUnknown fallback] else []
    match spawn spec with
    | .error cause => (⟨.error (.spawn executable cause), warnings⟩, c)
    | .ok pid =>
      let child : Child := ⟨c.nextSerial, Plugin.logName executable, pid⟩
      (⟨.ok (child, spec), warnings⟩, ⟨c.tracked ++ [child], c.nextSerial + 1⟩)

/-- Forgets every process. -/
def forget (c : Children) : Children := { c with tracked := [] }

end Children
end RaceControl
