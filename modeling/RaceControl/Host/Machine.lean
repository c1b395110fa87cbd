import RaceControl.Host.Filter
import RaceControl.Host.Shell.Expansion
import RaceControl.Host.Shell.Parser
import RaceControl.Signal

/-!
A small machine: files, a clock, and processes joined by pipes.
-/
namespace RaceControl.Host

/-- What an input or output of a process is connected to. -/
inductive Connection
  | null
  | zeros
  | pipe (id : Nat)
  deriving DecidableEq, Repr, Inhabited

/-- A pipe between processes, or from a process to the outside. -/
structure Conduit where
  id : Nat
  bytes : List UInt8
  /-- Whether someone outside the machine reads it. -/
  isWatched : Bool
  deriving Repr, Inhabited

namespace Shell

structure Descriptors where
  input : Connection
  output : Connection
  errors : Connection
  deriving Repr, Inhabited

/-- What a shell still has to do. -/
inductive Frame
  | run (command : Command)
  | onSuccess (command : Command)
  | onFailure (command : Command)
  | negate
  | test (isUntil : Bool) (condition body : Command)
  | again (isUntil : Bool) (condition body : Command)
  | choose (yes no : Command)
  | each (name : String) (values : List String) (body : Command)
  | reconnect (descriptors : Descriptors)
  | restoreStatus (status : Nat)
  /-- A command that waits for the output of a script in one of its words. -/
  | collect (conduit : Nat) (command : Command)
  deriving Repr, Inhabited

structure Interpreter where
  scope : Scope
  /-- Signals with the scripts that are run on them. -/
  traps : List (Nat × String)
  frames : List Frame
  /-- Processes that are waited for, the one that gives the status last. -/
  awaited : List Nat
  /-- Whether a trapped signal ends the waiting. -/
  isInterruptible : Bool
  /-- Whether the way they end is of no interest. -/
  isSilent : Bool
  background : List Nat
  deriving Repr, Inhabited

end Shell

inductive Activity
  | shell (shell : Shell.Interpreter)
  | sleep (wake : Nat)
  | task (task : Task)
  deriving Repr, Inhabited

structure Process where
  pid : Nat
  /-- When its first instruction is run. -/
  start : Nat
  activity : Activity
  environment : List (String × String)
  cwd : List String
  descriptors : Shell.Descriptors
  ignored : List Nat
  /-- Trapped signals that have not been dealt with. -/
  pending : List Signal
  ended : Option ExitStatus
  deriving Repr, Inhabited

structure Machine where
  now : Nat
  files : Node
  cwd : List String
  processes : List Process
  conduits : List Conduit
  nextPid : Nat
  nextConduit : Nat
  deriving Repr, Inhabited

namespace Machine

/-- The time that a program takes to be loaded, in milliseconds. -/
def loadTime : Nat := 1

def boot (cwd : List String) : Machine where
  now := 0
  files := Node.put (.directory []) cwd standardFiles
  cwd := cwd
  processes := []
  conduits := []
  nextPid := 1000
  nextConduit := 0

def process? (m : Machine) (pid : Nat) : Option Process := m.processes.find? (·.pid == pid)

def update (m : Machine) (p : Process) : Machine :=
  { m with processes := m.processes.map fun q => if q.pid = p.pid then p else q }

def status? (m : Machine) (pid : Nat) : Option ExitStatus := (m.process? pid).bind (·.ended)

def conduit? (m : Machine) (id : Nat) : Option Conduit := m.conduits.find? (·.id == id)

def setConduit (m : Machine) (c : Conduit) : Machine :=
  { m with conduits := m.conduits.map fun d => if d.id = c.id then c else d }

def newConduit (m : Machine) (isWatched : Bool) : Nat × Machine :=
  (m.nextConduit,
    { m with
      conduits := m.conduits ++ [⟨m.nextConduit, [], isWatched⟩]
      nextConduit := m.nextConduit + 1 })

def isLive (p : Process) : Bool := p.ended.isNone

/-- Whether someone can still write to a pipe. -/
def hasWriter (m : Machine) (id : Nat) : Bool :=
  m.processes.any fun p => isLive p &&
    (p.descriptors.output == .pipe id || p.descriptors.errors == .pipe id ||
      match p.activity with
      | .shell sh => sh.frames.any fun
        | .reconnect d => d.output == .pipe id || d.errors == .pipe id
        | _ => false
      | _ => false)

def hasReader (m : Machine) (c : Conduit) : Bool :=
  c.isWatched || m.processes.any fun p => isLive p && p.descriptors.input == .pipe c.id

/-- Takes what has been written to a watched pipe. -/
def drain (m : Machine) (id : Nat) : List UInt8 × Machine :=
  match m.conduit? id with
  | some c => (c.bytes, m.setConduit { c with bytes := [] })
  | none => ([], m)

/-- Whether a pipe is empty and stays so. -/
def isExhausted (m : Machine) (id : Nat) : Bool :=
  !m.hasWriter id && ((m.conduit? id).map (·.bytes.isEmpty)).getD true

/-- Stops watching a pipe. -/
def abandon (m : Machine) (id : Nat) : Machine :=
  match m.conduit? id with
  | some c => m.setConduit { c with isWatched := false, bytes := [] }
  | none => m

def finish (m : Machine) (pid : Nat) (status : ExitStatus) : Machine :=
  match m.process? pid with
  | some p => if isLive p then m.update { p with ended := some status } else m
  | none => m

/-- Forgets a process that has ended and whose status has been taken. -/
def reap (m : Machine) (pid : Nat) : Machine :=
  { m with processes := m.processes.filter fun p => p.pid != pid || isLive p }

/-- Sends a signal. A shell that has a trap for it deals with it when it comes to it. -/
def send (m : Machine) (pid : Nat) (s : Signal) : Except String Machine :=
  match m.process? pid with
  | none => .error "ESRCH: No such process"
  | some p =>
    if !isLive p then .ok m
    else if s = .kill then .ok (m.finish pid (.signal s))
    else if p.ignored.contains s.number then .ok m
    else
      let isTrapped : Bool :=
        match p.activity with
        | .shell sh => sh.traps.any (·.1 == s.number)
        | _ => false
      if isTrapped then .ok (m.update { p with pending := p.pending ++ [s] })
      else if s.isFatal then .ok (m.finish pid (.signal s))
      else .ok m

/-- Kills a process without asking it. -/
def forceKill (m : Machine) (pid : Nat) : Except ProcessError Machine :=
  match m.send pid .kill with
  | .ok m => .ok m
  | .error reason => .error (.termination pid s!"failed to send SIGKILL: {reason}")

def brokenPipe : Signal := ⟨13⟩

/-- Writes to a connection of a process. Without a reader the process ends, unless it ignores
that. The flag tells whether it goes on. -/
def write (m : Machine) (pid : Nat) (target : Connection) (bytes : List UInt8) : Machine × Bool :=
  match target with
  | .pipe id =>
    if bytes.isEmpty then (m, true)
    else
      match m.conduit? id with
      | none => (m, true)
      | some c =>
        if m.hasReader c then (m.setConduit { c with bytes := c.bytes ++ bytes }, true)
        else
          let ignores := ((m.process? pid).map (·.ignored.contains brokenPipe.number)).getD true
          if ignores then (m, true) else (m.finish pid (.signal brokenPipe), false)
  | _ => (m, true)

/-- The shell that runs a script, as it is started with `-c`, or none for other arguments. -/
def interpreter? (program : String) (arguments : List String) (environment : List (String × String))
    (pid : Nat) : Option Shell.Interpreter :=
  match arguments with
  | "-c" :: script :: rest =>
    let (name, positions) := match rest with
      | [] => (program, [])
      | name :: positions => (name, positions)
    some {
      scope := ⟨Shell.inherited environment, name, positions, 0, pid, none⟩
      traps := []
      frames := match Shell.parse? script with
        | some command => [.run command]
        | none => [.run (.simple [] [[.text "exit".toList false], [.text "2".toList false]] [])]
      awaited := []
      isInterruptible := false
      isSilent := false
      background := [] }
  | _ => none

/-- What a tool does when it is started. A shell without a script reads its empty input and ends. -/
def activity (m : Machine) (tool : Tool) (program : String) (arguments : List String)
    (environment : List (String × String)) (cwd : List String) (pid : Nat) : Activity :=
  match tool with
  | .sh =>
    match interpreter? program arguments environment pid with
    | some sh => .shell sh
    | none => .task (.write [] [] (if arguments.isEmpty then 0 else 2))
  | tool => .task (tool.task m.files cwd arguments)

/-- Adds a process. -/
def spawn (m : Machine) (delay : Nat) (make : Nat → Activity)
    (environment : List (String × String)) (cwd : List String) (descriptors : Shell.Descriptors)
    (ignored : List Nat) : Nat × Machine :=
  let p : Process :=
    ⟨m.nextPid, m.now + delay, make m.nextPid, environment, cwd, descriptors, ignored, [], none⟩
  (m.nextPid, { m with processes := m.processes ++ [p], nextPid := m.nextPid + 1 })

def hasNul (text : String) : Bool := text.toList.contains '\x00'

/-- Where a new process works and what it runs, if it can be started: the directory is changed
before the program is looked up. -/
def locate (m : Machine) (spec : ProcessSpec) : Except OsError (List String × Tool) := do
  if hasNul spec.program.text || spec.arguments.any hasNul || hasNul spec.workingDir.text ||
      spec.environment.any (fun (n, v) => hasNul n || hasNul v) then
    throw .nulByte
  let (place, node) ← m.files.resolve m.cwd spec.workingDir
  if ¬node.isDirectory then throw .notDirectory
  let directories := match spec.environment.lookup "PATH" with
    | some path => (path.splitOn ":")
    | none => searchPath
  let tool ← findTool m.files place directories spec.program
  return (place, tool)

/-- Starts a process whose output and errors are watched. -/
def start (m : Machine) (spec : ProcessSpec) : Except OsError (Nat × Nat × Nat × Machine) := do
  let (place, tool) ← m.locate spec
  let (output, m) := m.newConduit true
  let (errors, m) := m.newConduit true
  let environment := spec.environment
  let make := m.activity tool spec.program.text spec.arguments environment place
  let (pid, m) := m.spawn loadTime make environment place ⟨.null, .pipe output, .pipe errors⟩ []
  return (pid, output, errors, m)

end Machine
end RaceControl.Host
