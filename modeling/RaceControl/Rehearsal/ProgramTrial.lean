import RaceControl.Program.Run
import RaceControl.Rehearsal.Session

/-!
The program on a small machine, from its settings file to its end.
-/
namespace RaceControl.Rehearsal

structure ProgramTrial where
  program : Program
  scene : Scene
  /-- The line of a plugin on which an interrupt is sent, until it has been. -/
  cue : Option String
  /-- Lines of the log. -/
  log : List String
  notices : List Notice
  deriving Inhabited

namespace ProgramTrial

def hasLeft (t : ProgramTrial) : Bool :=
  match t.program.stage with
  | .left _ => true
  | _ => false

/-- Records what the supervisor has logged, and lets the program know of its result. -/
def sync (t : ProgramTrial) (scene : Scene) : ProgramTrial :=
  let reply := t.program.reply <|> (scene.record.answers.head?).map (·.2)
  { t with
    program := { t.program with system := scene.system, reply }
    scene := scene.onRecord fun r => { r with log := [], answers := [] }
    log := t.log ++ scene.record.log.map (·.text) }

def witness (t : ProgramTrial) : ProgramEffect → ProgramTrial
  | .supervisor _ => t
  | .noticed notice => { t with notices := t.notices ++ [notice] }
  | .reported cause =>
    { t with log := t.log ++ [s!"{LogEntry.Level.error.name} {cause.report}"] }

def offer? (t : ProgramTrial) (i : ProgramInput) : Option ProgramTrial :=
  (t.program.step? i).map fun (program, effects) =>
    effects.foldl witness
      { t with program, scene := { t.scene with system := program.system } }

/-- The interrupt, once its cue has been given. -/
def interrupt? (t : ProgramTrial) : Option ProgramTrial := do
  let cue ← t.cue
  if t.scene.plugins.lines.contains cue then
    (t.offer? .interrupt).map fun t => { t with cue := none }
  else none

def next? (t : ProgramTrial) : Option ProgramTrial :=
  if t.hasLeft then none
  else
    (t.offer? .hear).orElse fun () =>
    (t.offer? .seeDone).orElse fun () =>
    (t.offer? .seeIdle).orElse fun () =>
    (t.interrupt?).orElse fun () =>
    t.scene.next?.map t.sync

instance : Clocked ProgramTrial where
  now := fun t => t.scene.machine.now
  advance := fun t time =>
    { t with scene := { t.scene with machine := t.scene.machine.advance time } }
  next? := next?
  nextEvent? := fun t => t.scene.nextEvent?

/-- Runs a program to its end. -/
def run (program : Program) (tables : LaunchTables) (cwd : List String) (network : Host.Network)
    (cue : Option String) : ProgramTrial :=
  let setting : Setting := {
    settings := program.system.settings
    collaborators := ⟨false, none⟩
    store := ⟨tables.server, tables.tracker⟩
    storeFault := none
    configFault := none
    wrapperFault := none
    cwd
    network }
  let scene := { Scene.ofSetting setting with system := program.system }
  complete ⟨program, scene, cue, [], []⟩ hasLeft

/-- The description of the event that has been launched. -/
def event? (t : ProgramTrial) : Option String := (t.scene.record.launches.head?).map (·.description)

end ProgramTrial

/-- What can be seen of a program from outside. -/
structure Outcome where
  failure : Option ProgramFailure
  event : Option String
  log : List String
  notices : List Notice
  deriving Inhabited

namespace Outcome

def exitCode (o : Outcome) : Nat := if o.failure.isNone then 0 else 1

/-- Runs the program on a file. -/
def ofFile (file : SettingsFile) (cwd : List String) (network : Host.Network)
    (cue : Option String) : Outcome :=
  match Program.ofFile file with
  | .error failure => ⟨some failure, none, [], []⟩
  | .ok (program, tables) =>
    let t := ProgramTrial.run program tables cwd network cue
    let failure := match t.program.stage with
      | .left (.error failure) => some failure
      | _ => none
    ⟨failure, t.event?, t.log, t.notices⟩

end Outcome
end RaceControl.Rehearsal
