import RaceControl.LogBuffer
import RaceControl.Rehearsal.Clock
import RaceControl.Host.Run
import RaceControl.Supervisor.Step
import RaceControl.Vigil

/-!
One server process on a machine, without a supervisor: its output is captured, it can be cancelled
and killed, and its end is reported once.
-/
namespace RaceControl.Rehearsal
open Host

structure ServerTrial where
  machine : Machine
  vigil : Vigil
  output : Nat
  errors : Nat
  log : LogBuffer
  /-- The report of the waiter, until someone takes it. -/
  report : Option WaitResult
  deriving Inhabited

namespace ServerTrial

/-- Starts the process. -/
def start (machine : Machine) (spec : ProcessSpec) (logSize : Nat) :
    Except ProcessError ServerTrial :=
  match machine.start spec with
  | .error cause => .error (.spawn spec.program cause)
  | .ok (pid, output, errors, machine) =>
    .ok ⟨machine, .begin pid, output, errors, .empty logSize, none⟩

/-- Appends bytes in the pieces in which they are read. -/
def capture : Nat → LogBuffer → List UInt8 → LogBuffer
  | 0, log, _ => log
  | _, log, [] => log
  | fuel + 1, log, bytes =>
    capture fuel (log.append (bytes.take captureSize)) (bytes.drop captureSize)

def captureFrom (t : ServerTrial) (conduit : Nat) : ServerTrial :=
  let (bytes, machine) := t.machine.drain conduit
  { t with machine, log := capture bytes.length t.log bytes }

def hasOutput (t : ServerTrial) : Bool :=
  [t.output, t.errors].any fun id => !((t.machine.conduit? id).map (·.bytes.isEmpty)).getD true

def act (t : ServerTrial) : VigilEffect → ServerTrial
  | .requested (some pid) =>
    match t.machine.send pid .term with
    | .ok machine => { t with machine }
    | .error _ => t
  | .waited _ => { t with machine := t.machine.reap t.vigil.pid }
  | .reported result => { t with report := some result }
  | .ended _ | .cancelled | .requested none | .warned _ => t

/-- What happens to the process or what its waiter polls, if there can be something new. -/
def vigilEvent (t : ServerTrial) : VigilEvent :=
  match t.vigil.process, t.machine.status? t.vigil.pid with
  | .running, some status => .processEnded status
  | .running, none => .cancellationPolled (.ok ())
  | .ended _, _ | .reaped _, _ => .waitPolled none

def stepVigil? (t : ServerTrial) : Option ServerTrial :=
  (t.vigil.step? t.vigilEvent).map fun (vigil, effects) => effects.foldl act { t with vigil }

def next? (t : ServerTrial) : Option ServerTrial :=
  match t.machine.step? with
  | some machine => some { t with machine }
  | none =>
    if t.hasOutput then some ((t.captureFrom t.output).captureFrom t.errors) else t.stepVigil?

instance : Clocked ServerTrial where
  now := fun t => t.machine.now
  advance := fun t time => { t with machine := t.machine.advance time }
  next? := next?
  nextEvent? := fun t => t.machine.nextEvent?

def cancel (t : ServerTrial) : ServerTrial := settle haste { t with vigil := t.vigil.cancel }

/-- Kills the process without asking it. -/
def forceKill (t : ServerTrial) : Except ProcessError ServerTrial :=
  match t.machine.forceKill t.vigil.pid with
  | .ok machine => .ok (settle haste { t with machine })
  | .error e => .error e

/-- The report, once it is there; none where it has been taken before. -/
def takeReport (t : ServerTrial) : Option WaitResult × ServerTrial :=
  if t.vigil.waiter = .reported ∧ t.report.isNone then (none, t)
  else
    let t := await t fun t => t.report.isSome
    (t.report, { t with report := none })

end ServerTrial
end RaceControl.Rehearsal
