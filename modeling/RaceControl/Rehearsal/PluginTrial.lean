import RaceControl.Children
import RaceControl.Rehearsal.Clock
import RaceControl.Rehearsal.PluginLog

/-!
Plugins on a machine, without a supervisor.
-/
namespace RaceControl.Rehearsal
open Host

structure PluginTrial where
  machine : Machine
  children : Children
  /-- Ids of every process that has been started. -/
  started : List Nat
  log : PluginLog
  deriving Inhabited

namespace PluginTrial

def fresh (cwd : List String) : PluginTrial := ⟨.boot cwd, .none, [], .none⟩

def next? (t : PluginTrial) : Option PluginTrial :=
  match t.machine.step? with
  | some machine => some { t with machine }
  | none =>
    if t.log.hasNews t.machine then
      let (machine, log) := t.log.collect t.machine
      some { t with machine, log }
    else none

instance : Clocked PluginTrial where
  now := fun t => t.machine.now
  advance := fun t time => { t with machine := t.machine.advance time }
  next? := next?
  nextEvent? := fun t => t.machine.nextEvent?

/-- Starts a plugin. -/
def start (t : PluginTrial) (plugin : Plugin) (fallback : Path) :
    Except ProcessError Nat × List LogEntry × PluginTrial :=
  let (outcome, children) :=
    t.children.start (.ok (placeText t.machine.cwd)) (fun spec => (t.machine.start spec).map (·.1))
      plugin fallback
  let t := { t with children }
  match outcome.result with
  | .error e => (.error e, outcome.warnings, t)
  | .ok (child, spec) =>
    match t.machine.start spec with
    | .error cause => (.error (.spawn spec.program cause), outcome.warnings, t)
    | .ok (pid, output, errors, machine) =>
      (.ok pid, outcome.warnings,
        { t with
          machine
          started := t.started ++ [pid]
          log := t.log.watch child.name [output, errors] })

def haveEnded (t : PluginTrial) : Bool := t.started.all fun pid => (t.machine.status? pid).isSome

/-- Waits for the end of every process and tells whether it has come. -/
def awaitEnd (t : PluginTrial) : Bool × PluginTrial :=
  let t := await t haveEnded
  (t.haveEnded, t)

/-- Kills every process that is kept track of. -/
def killAll (t : PluginTrial) : PluginTrial :=
  let machine := t.children.tracked.foldl (fun m child =>
    match m.send child.pid .kill with
    | .ok m => m
    | .error _ => m) t.machine
  { t with machine, children := t.children.forget }

/-- Takes the forwarded lines once there are so many. -/
def takeOutput (t : PluginTrial) (lines : Nat) : List String × PluginTrial :=
  let t := await t fun t => lines ≤ t.log.lines.length
  (sortLines t.log.lines, { t with log := { t.log with lines := [] } })

end PluginTrial
end RaceControl.Rehearsal
