import RaceControl.Host.Run
import RaceControl.LineReader

/-!
The output of the plugins that run on a machine.
-/
namespace RaceControl.Rehearsal
open Host

/-- One output of a plugin while it is read. -/
structure Watch where
  name : String
  conduit : Nat
  reader : LineReader
  deriving Repr, Inhabited

structure PluginLog where
  watches : List Watch
  /-- Forwarded lines that nobody has taken yet. -/
  lines : List String
  deriving Repr, Inhabited

namespace PluginLog

def none : PluginLog := ⟨[], []⟩

def watch (log : PluginLog) (name : String) (conduits : List Nat) : PluginLog :=
  { log with watches := log.watches ++ conduits.map fun c => ⟨name, c, .fresh⟩ }

/-- Reads what one output has produced. The watch ends with the output, and with a line that cannot
be read. -/
def readOne (m : Machine) (w : Watch) : Machine × Option Watch × List String :=
  let (bytes, m) := m.drain w.conduit
  let (reader, lines) := w.reader.feed bytes
  let forwarded := lines.map (LineReader.forwarded w.name)
  if reader.hasStopped then (m.abandon w.conduit, .none, forwarded)
  else if m.isExhausted w.conduit then
    (m, .none, forwarded ++ (reader.finish.map (LineReader.forwarded w.name)).toList)
  else (m, some { w with reader }, forwarded)

def collect (log : PluginLog) (m : Machine) : Machine × PluginLog :=
  log.watches.foldl (fun (m, rest) w =>
    let (m, w, lines) := readOne m w
    (m, ⟨rest.watches ++ w.toList, rest.lines ++ lines⟩)) (m, ⟨[], log.lines⟩)

/-- Whether there is something to read. -/
def hasNews (log : PluginLog) (m : Machine) : Bool :=
  log.watches.any fun w =>
    m.isExhausted w.conduit || !((m.conduit? w.conduit).map (·.bytes.isEmpty)).getD true

end PluginLog

/-- The lines in order, whatever the order in which they came. -/
def sortLines (lines : List String) : List String := lines.mergeSort fun a b => !decide (b < a)

end RaceControl.Rehearsal
