import RaceControl.Host.Shell.Run

/-!
How the machine runs: processes take steps while they can, and then the clock goes on.
-/
namespace RaceControl.Host.Machine

/-- Whether a process would only wait if it were given a step. -/
def isBlocked (m : Machine) (p : Process) : Bool :=
  match p.activity with
  | .sleep wake => m.now < wake
  | .task (.filter (.input :: _) filter) =>
    match p.descriptors.input with
    | .pipe id =>
      !filter.isDone && ((m.conduit? id).map (·.bytes.isEmpty)).getD true && m.hasWriter id
    | _ => false
  | .task _ => false
  | .shell sh =>
    !(sh.awaited.all fun pid => (m.status? pid).isSome) &&
      !(sh.isInterruptible && !p.pending.isEmpty)

def isReady (m : Machine) (p : Process) : Bool := isLive p && p.start ≤ m.now && !m.isBlocked p

/-- Lets a filter write what it makes of some bytes. -/
def feed (m : Machine) (p : Process) (bytes : List UInt8) (rest : List Source) (filter : Filter) :
    Machine :=
  let (output, filter) := filter.feed bytes
  let (m, goesOn) := m.write p.pid p.descriptors.output output
  if goesOn then m.update { p with activity := .task (.filter rest filter) } else m

def stepFilter (m : Machine) (p : Process) (sources : List Source) (filter : Filter) : Machine :=
  if filter.isDone then m.finish p.pid (.code 0)
  else
    match sources with
    | [] => m.finish p.pid (.code 0)
    | .bytes content :: rest => m.feed p content rest filter
    | .zeros :: rest => m.feed p (List.replicate filter.demand 0) rest filter
    | .input :: rest =>
      match p.descriptors.input with
      | .null => m.update { p with activity := .task (.filter rest filter) }
      | .zeros => m.feed p (List.replicate filter.demand 0) rest filter
      | .pipe id =>
        let (bytes, drained) := m.drain id
        if bytes.isEmpty then m.update { p with activity := .task (.filter rest filter) }
        else drained.feed p bytes (.input :: rest) filter

def stepTask (m : Machine) (p : Process) : Task → Machine
  | .sleep milliseconds => m.update { p with activity := .sleep (m.now + milliseconds) }
  | .write bytes errors status =>
    let (m, _) := m.write p.pid p.descriptors.errors errors
    let (m, _) := m.write p.pid p.descriptors.output bytes
    m.finish p.pid (.code status)
  | .filter sources filter => m.stepFilter p sources filter

def stepProcess (m : Machine) (p : Process) : Machine :=
  match p.activity with
  | .sleep _ => m.finish p.pid (.code 0)
  | .task task => m.stepTask p task
  | .shell sh => Shell.step m p sh

/-- The step of the first process that can take one. -/
def step? (m : Machine) : Option Machine := (m.processes.find? m.isReady).map m.stepProcess

/-- The next moment at which a process can take a step, if it would not come sooner. -/
def nextEvent? (m : Machine) : Option Nat :=
  let times := m.processes.filterMap fun p =>
    if !isLive p then none
    else if m.now < p.start then some p.start
    else
      match p.activity with
      | .sleep wake => if m.now < wake then some wake else some (m.now + 1)
      | _ => if m.isBlocked p then none else some (m.now + 1)
  times.min?

/-- Puts the clock forward. -/
def advance (m : Machine) (time : Nat) : Machine := { m with now := max m.now time }

end RaceControl.Host.Machine
