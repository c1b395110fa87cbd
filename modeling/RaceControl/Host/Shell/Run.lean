import RaceControl.Host.Machine

/-!
How a shell on the machine goes on with its script, one small step at a time.
-/
namespace RaceControl.Host.Shell

open Machine

/-- Puts a shell back into its process, unless the process has ended. -/
def keep (m : Machine) (pid : Nat) (sh : Interpreter) : Machine :=
  match m.process? pid with
  | some p => if isLive p then m.update { p with activity := .shell sh } else m
  | none => m

def Interpreter.withStatus (sh : Interpreter) (status : Nat) : Interpreter :=
  { sh with scope := { sh.scope with status } }

def Interpreter.push (sh : Interpreter) (frames : List Frame) : Interpreter :=
  { sh with frames := frames ++ sh.frames }

def word (text : String) : Word := [.text text.toList false]

def bytes (text : String) : List UInt8 := Utf8.encode text.toList

/-- Where a file name in a redirection leads. -/
def connection (name : String) : Connection := if name = "/dev/zero" then .zeros else .null

def Descriptors.get (d : Descriptors) : Nat → Connection
  | 0 => d.input
  | 1 => d.output
  | 2 => d.errors
  | _ => .null

def Descriptors.set (d : Descriptors) (n : Nat) (c : Connection) : Descriptors :=
  match n with
  | 0 => { d with input := c }
  | 1 => { d with output := c }
  | 2 => { d with errors := c }
  | _ => d

/-- The connections of a command, from those of its shell. -/
def redirected (scope : Scope) (d : Descriptors) (redirects : List Redirect) : Descriptors :=
  redirects.foldl (fun d r =>
    d.set r.descriptor
      (match r.target with
       | .copy source => d.get source
       | .closed => .null
       | .file name => connection ((text? scope name).map (·.1) |>.getD ""))) d

/-- The number that a status is known by in a shell. -/
def statusNumber : ExitStatus → Nat
  | .code n => n
  | .signal s => 128 + s.number

def signalNumber? (name : String) : Option Nat :=
  let chars := name.toList
  let bare := if "SIG".toList.isPrefixOf chars then chars.drop 3 else chars
  if bare = "EXIT".toList then some 0
  else
    match (String.ofList bare).toNat? with
    | some n => some n
    | none => (Signal.ofName? (String.ofList bare)).map (·.number)

/-- The frames around which a loop goes on, and those behind the loop. -/
def isLoop : Frame → Bool
  | .again .. => true
  | .each .. => true
  | _ => false

/-- Begins to end a shell; a script trapped on the end is run first. -/
def exit (m : Machine) (pid : Nat) (sh : Interpreter) (status : Nat) : Machine :=
  match sh.traps.lookup 0 with
  | some script =>
    let last : Command := .simple [] [word "exit", word (toString status)] []
    let action := (parse? script).getD .nothing
    keep m pid { sh with
      traps := sh.traps.filter (·.1 != 0)
      frames := [.run action, .run last]
      awaited := [] }
  | none => m.finish pid (.code (status % 256))

/-- Runs part of a script in a shell of its own. -/
def fork (m : Machine) (p : Process) (sh : Interpreter) (c : Command) (d : Descriptors) :
    Nat × Machine :=
  let child : Interpreter :=
    { sh with traps := [], frames := [.run c], awaited := [], background := [] }
  m.spawn 0 (fun _ => .shell child) p.environment p.cwd d p.ignored

def stages (m : Machine) (p : Process) (sh : Interpreter) (input : Connection) :
    List Command → List Nat × Machine
  | [] => ([], m)
  | [last] =>
    let (pid, m) := fork m p sh last { p.descriptors with input }
    ([pid], m)
  | stage :: rest =>
    let (id, m) := m.newConduit false
    let (pid, m) := fork m p sh stage { p.descriptors with input, output := .pipe id }
    let (pids, m) := stages m p sh (.pipe id) rest
    (pid :: pids, m)

/-- The places where a shell looks for programs. -/
def programPlaces (sh : Interpreter) : List String :=
  match sh.scope.read? "PATH" with
  | some path => path.splitOn ":"
  | none => searchPath

/-- What a shell says of a command that it cannot run, and the status for it. -/
def complaint (sh : Interpreter) (label name : String) (cause : OsError) : List UInt8 × Nat :=
  match cause with
  | .permissionDenied => (bytes s!"{sh.scope.script}: 1: {label}{name}: Permission denied\n", 126)
  | _ => (bytes s!"{sh.scope.script}: 1: {label}{name}: not found\n", 127)

/-- Runs a program and waits for it. -/
def runProgram (m : Machine) (p : Process) (sh : Interpreter) (d : Descriptors)
    (extra : List (String × String)) (name : String) (arguments : List String) : Machine :=
  match findTool m.files p.cwd (programPlaces sh) name with
  | .error cause =>
    let (text, status) := complaint sh "" name cause
    let (m, _) := m.write p.pid d.errors text
    keep m p.pid (sh.withStatus status)
  | .ok tool =>
    let environment := sh.scope.environment ++ extra
    let make := m.activity tool name arguments environment p.cwd
    let (pid, m) := m.spawn loadTime make environment p.cwd d p.ignored
    keep m p.pid { sh with awaited := [pid], isInterruptible := false }

/-- Lets a program take the place of the shell. -/
def replaceShell (m : Machine) (p : Process) (sh : Interpreter) (d : Descriptors) (name : String)
    (arguments : List String) : Machine :=
  match findTool m.files p.cwd (programPlaces sh) name with
  | .error cause =>
    let (text, status) := complaint sh "exec: " name cause
    let (m, _) := m.write p.pid d.errors text
    exit m p.pid sh status
  | .ok tool =>
    let environment := sh.scope.environment
    m.update { p with
      start := m.now + loadTime
      activity := m.activity tool name arguments environment p.cwd p.pid
      environment
      descriptors := d
      pending := [] }

/-- Signals that a `kill` command names, and where it sends them. -/
def killTargets : List String → Option (Nat × List String)
  | "-s" :: name :: pids => (signalNumber? name).map (·, pids)
  | first :: pids =>
    match first.toList with
    | '-' :: name => (signalNumber? (String.ofList name)).map (·, pids)
    | _ => some (15, first :: pids)
  | [] => none

def kill (m : Machine) (arguments : List String) : Machine × Nat :=
  match killTargets arguments with
  | none => (m, 2)
  | some (number, pids) =>
    pids.foldl (fun (m, status) pid =>
      match pid.toNat? with
      | none => (m, 1)
      | some pid =>
        if number = 0 then (m, if (m.process? pid).isSome then status else 1)
        else
          match m.send pid ⟨number⟩ with
          | .ok m => (m, status)
          | .error _ => (m, 1)) (m, 0)

/-- Sets what happens on signals: nothing, the usual, or a script. Gives the shell and the signals
that its process ignores from now on. -/
def setTrap? (p : Process) (sh : Interpreter) (action : String) (names : List String) :
    Option (Interpreter × List Nat) :=
  (names.mapM signalNumber?).map fun numbers =>
    let traps := sh.traps.filter fun t => !numbers.contains t.1
    let ignored := p.ignored.filter fun n => !numbers.contains n
    if action = "" then ({ sh with traps }, ignored ++ numbers.filter (· != 0))
    else if action = "-" then ({ sh with traps }, ignored)
    else ({ sh with traps := traps ++ numbers.map (·, action) }, ignored)

def builtins : List String :=
  [":", "true", "false", "echo", "printf", "pwd", "exit", "exec", "trap", "kill", "wait", "cd",
   "export", "unset", "shift", "eval", "read", "break", "continue", "test", "[", "umask", "set"]

/-- Runs a command of the shell itself. -/
def runBuiltin (m : Machine) (p : Process) (sh : Interpreter) (d : Descriptors) (name : String)
    (arguments : List String) : Machine :=
  let done (status : Nat) : Machine := keep m p.pid (sh.withStatus status)
  let say (output : List UInt8) (status : Nat) : Machine :=
    let (m, _) := m.write p.pid d.output output
    keep m p.pid (sh.withStatus status)
  let grumble (text : String) (status : Nat) : Machine :=
    let (m, _) := m.write p.pid d.errors (bytes s!"{sh.scope.script}: 1: {name}: {text}\n")
    keep m p.pid (sh.withStatus status)
  let decide (arguments : List String) : Machine :=
    let kind (test : Node → Bool) (name : String) : Bool :=
      match m.files.resolve p.cwd name with
      | .ok (_, node) => test node
      | .error _ => false
    match test? (kind fun node => !node.isDirectory) (kind Node.isDirectory) arguments with
    | some answer => done (if answer then 0 else 1)
    | none => done 2
  match name with
  | "echo" => say (echo arguments) 0
  | "printf" => say (printf arguments) (if arguments.isEmpty then 2 else 0)
  | "pwd" => say (bytes (placeText p.cwd ++ "\n")) 0
  | "false" => done 1
  | "exit" =>
    match arguments with
    | [] => exit m p.pid sh sh.scope.status
    | number :: _ =>
      match number.toNat? with
      | some status => exit m p.pid sh status
      | none => exit (grumble s!"Illegal number: {number}" 2) p.pid sh 2
  | "exec" =>
    match arguments with
    | [] => keep (m.update { p with descriptors := d }) p.pid (sh.withStatus 0)
    | name :: arguments => replaceShell m p sh d name arguments
  | "trap" =>
    match arguments with
    | action :: names =>
      match setTrap? p sh action names with
      | some (sh, ignored) => keep (m.update { p with ignored }) p.pid (sh.withStatus 0)
      | none => done 1
    | [] => done 0
  | "kill" =>
    let (m, status) := kill (keep m p.pid sh) arguments
    keep m p.pid (sh.withStatus status)
  | "wait" =>
    let named := if arguments.isEmpty then sh.background else arguments.filterMap String.toNat?
    let pids := named.filter fun pid => (m.process? pid).isSome
    keep m p.pid
      { sh.withStatus 0 with
        awaited := pids, isInterruptible := true, isSilent := arguments.isEmpty }
  | "cd" =>
    let target := arguments.headD "/"
    match m.files.resolve p.cwd target with
    | .ok (place, node) =>
      if node.isDirectory then keep (m.update { p with cwd := place }) p.pid (sh.withStatus 0)
      else grumble ("can't cd to " ++ target) 2
    | .error _ => grumble ("can't cd to " ++ target) 2
  | "export" =>
    let scope := arguments.foldl (fun scope argument =>
      match argument.splitOn "=" with
      | [name] => scope.exported name
      | name :: value => (scope.assign name ("=".intercalate value)).exported name
      | [] => scope) sh.scope
    keep m p.pid ({ sh with scope }.withStatus 0)
  | "unset" =>
    keep m p.pid ({ sh with scope := arguments.foldl Scope.unset sh.scope }.withStatus 0)
  | "shift" =>
    let n := ((arguments.head?).bind String.toNat?).getD 1
    keep m p.pid
      ({ sh with scope := { sh.scope with arguments := sh.scope.arguments.drop n } }.withStatus 0)
  | "set" =>
    match arguments with
    | "--" :: rest =>
      keep m p.pid ({ sh with scope := { sh.scope with arguments := rest } }.withStatus 0)
    | _ => done 0
  | "eval" =>
    match parse? (" ".intercalate arguments) with
    | some command => keep m p.pid (sh.push [.run command])
    | none => exit m p.pid sh 2
  | "read" => done 1
  | "break" =>
    keep m p.pid { sh.withStatus 0 with frames := (sh.frames.dropWhile (!isLoop ·)).drop 1 }
  | "continue" => keep m p.pid { sh.withStatus 0 with frames := sh.frames.dropWhile (!isLoop ·) }
  | "test" => decide arguments
  | "[" =>
    if arguments.getLast? = some "]" then decide arguments.dropLast else grumble "missing ]" 2
  | _ => done 0

/-- Gives values to variables, one after the other. -/
def assignAll? (scope : Scope) : List (String × Word) →
    Option (List (String × String) × Scope)
  | [] => some ([], scope)
  | (name, w) :: rest => do
    let (value, scope) ← text? scope w
    let (more, scope) ← assignAll? (scope.assign name value) rest
    return ((name, value) :: more, scope)

/-- The name of a signal as a shell reports that a process ended on it. -/
def signalText (s : Signal) : String :=
  let texts :=
    ["Hangup", "Interrupt", "Quit", "Illegal instruction", "Trace/breakpoint trap", "Aborted",
     "Bus error", "Floating point exception", "Killed", "User defined signal 1",
     "Segmentation fault", "User defined signal 2", "Broken pipe", "Alarm clock", "Terminated"]
  (texts[s.number - 1]?).getD s!"Unknown signal {s.number}"

/-- What a shell writes about processes that it waited for: the signals on which they ended, apart
from interrupts and broken pipes. -/
def obituary (statuses : List ExitStatus) : List UInt8 :=
  statuses.flatMap fun
    | .signal s => if s = .int ∨ s = brokenPipe then [] else bytes (signalText s ++ "\n")
    | .code _ => []

/-- Runs a script whose output a command asks for. -/
def collect (m : Machine) (p : Process) (sh : Interpreter) (c : Command) (script : String) :
    Machine :=
  match parse? script with
  | none => exit m p.pid sh 2
  | some inner =>
    let (id, m) := m.newConduit true
    let (pid, m) := fork m p sh inner { p.descriptors with output := .pipe id }
    keep m p.pid
      { sh.push [.collect id c] with awaited := [pid], isInterruptible := false }

/-- The text that a script leaves: line ends at the end are cut off. -/
def collected (output : List UInt8) : List Char :=
  ((Utf8.decodeLossy (output.filter (· != 0))).reverse.dropWhile (· == '\n')).reverse

def runSimple (m : Machine) (p : Process) (sh : Interpreter) (assignments : List (String × Word))
    (words : List Word) (redirects : List Redirect) : Machine :=
  let outcome : Option Machine := do
    let (fields, scope) ← allFields? sh.scope words
    let d := redirected scope p.descriptors redirects
    match fields with
    | [] =>
      let (_, scope) ← assignAll? scope assignments
      let status := if assignments.any (asksForOutput ·.2) then scope.status else 0
      return keep m p.pid ({ sh with scope }.withStatus status)
    | name :: arguments =>
      let (extra, _) ← assignAll? scope assignments
      let sh := { sh with scope }
      if builtins.contains name then return runBuiltin m p sh d name arguments
      else return runProgram m p sh d extra name arguments
  outcome.getD (exit m p.pid sh 2)

/-- The arm of a selection whose pattern a value fits first. -/
def chosenArm (scope : Scope) (value : List Char) (arms : List (List Word × Command)) : Command :=
  let fits (w : Word) : Bool :=
    match patternChars? scope w with
    | some (pattern, _) => Glyph.fits (glyphs pattern) value
    | none => false
  ((arms.find? fun (patterns, _) => patterns.any fits).map (·.2)).getD .nothing

/-- Begins to run a command whose words ask for no more output. -/
def runFilled (m : Machine) (p : Process) (sh : Interpreter) : Command → Machine
  | .nothing => keep m p.pid sh
  | .simple assignments words redirects => runSimple m p sh assignments words redirects
  | .sequence a b => keep m p.pid (sh.push [.run a, .run b])
  | .both a b => keep m p.pid (sh.push [.run a, .onSuccess b])
  | .either a b => keep m p.pid (sh.push [.run a, .onFailure b])
  | .negated a => keep m p.pid (sh.push [.run a, .negate])
  | .pipeline commands =>
    let (pids, m) := stages m p sh p.descriptors.input commands
    keep m p.pid { sh with awaited := pids, isInterruptible := false }
  | .background c =>
    let (pid, m) := fork m p sh c { p.descriptors with input := .null }
    keep m p.pid
      ({ sh with
        background := sh.background ++ [pid]
        scope := { sh.scope with lastBackground := some pid } }.withStatus 0)
  | .repeated isUntil condition body =>
    keep m p.pid (sh.push [.run condition, .test isUntil condition body])
  | .branch condition yes no => keep m p.pid (sh.push [.run condition, .choose yes no])
  | .each name words body =>
    match words with
    | none => keep m p.pid (sh.push [.each name sh.scope.arguments body])
    | some words =>
      match allFields? sh.scope words with
      | some (values, scope) =>
        keep m p.pid ({ sh with scope }.push [.each name values body])
      | none => exit m p.pid sh 2
  | .select subject arms =>
    match text? sh.scope subject with
    | some (value, scope) =>
      let arm := chosenArm scope value.toList arms
      keep m p.pid (({ sh with scope }.withStatus 0).push [.run arm])
    | none => exit m p.pid sh 2
  | .subshell c redirects =>
    let (pid, m) := fork m p sh c (redirected sh.scope p.descriptors redirects)
    keep m p.pid { sh with awaited := [pid], isInterruptible := false }
  | .grouped c redirects =>
    if redirects.isEmpty then keep m p.pid (sh.push [.run c])
    else
      let m := m.update { p with descriptors := redirected sh.scope p.descriptors redirects }
      keep m p.pid (sh.push [.run c, .reconnect p.descriptors])

/-- Begins to run a command. -/
def run (m : Machine) (p : Process) (sh : Interpreter) (c : Command) : Machine :=
  match c.words.findSome? script? with
  | some script => collect m p sh c script
  | none => runFilled m p sh c

/-- Goes on with the next frame. -/
def stepFrame (m : Machine) (p : Process) (sh : Interpreter) : Machine :=
  match sh.frames with
  | [] => exit m p.pid sh sh.scope.status
  | frame :: frames =>
    let sh := { sh with frames }
    let succeeded := sh.scope.status == 0
    match frame with
    | .run c => run m p sh c
    | .onSuccess c => keep m p.pid (if succeeded then sh.push [.run c] else sh)
    | .onFailure c => keep m p.pid (if succeeded then sh else sh.push [.run c])
    | .negate => keep m p.pid (sh.withStatus (if succeeded then 1 else 0))
    | .test isUntil condition body =>
      keep m p.pid
        (if succeeded != isUntil then sh.push [.run body, .again isUntil condition body]
         else sh.withStatus 0)
    | .again isUntil condition body =>
      keep m p.pid (sh.push [.run condition, .test isUntil condition body])
    | .choose yes no => keep m p.pid ((sh.withStatus 0).push [.run (if succeeded then yes else no)])
    | .each _ [] _ => keep m p.pid sh
    | .each name (value :: values) body =>
      keep m p.pid ({ sh with scope := sh.scope.assign name value }.push
        [.run body, .each name values body])
    | .reconnect descriptors => keep (m.update { p with descriptors }) p.pid sh
    | .restoreStatus status => keep m p.pid (sh.withStatus status)
    | .collect id c =>
      let (output, m) := m.drain id
      run (m.abandon id) p sh (c.withWords (filledFirst (collected output) c.words))

/-- Runs the script that is trapped on a signal. -/
def runTrap (m : Machine) (p : Process) (sh : Interpreter) (s : Signal) (rest : List Signal) :
    Machine :=
  let script := (sh.traps.lookup s.number).getD ""
  let action := (parse? script).getD .nothing
  keep (m.update { p with pending := rest }) p.pid
    (sh.push [.run action, .restoreStatus sh.scope.status])

/-- One step of a shell that is not kept waiting. -/
def step (m : Machine) (p : Process) (sh : Interpreter) : Machine :=
  match sh.awaited, p.pending with
  | [], [] => stepFrame m p sh
  | [], s :: rest => runTrap m p sh s rest
  | awaited, pending =>
    if awaited.all fun pid => (m.status? pid).isSome then
      let statuses := if sh.isSilent then [] else awaited.filterMap m.status?
      let (m, _) := m.write p.pid p.descriptors.errors (obituary statuses)
      keep m p.pid
        { sh.withStatus ((statuses.getLast?.map statusNumber).getD 0) with
          awaited := [], isInterruptible := false, isSilent := false }
    else
      match pending with
      | s :: _ =>
        keep m p.pid
          { sh.withStatus (128 + s.number) with
            awaited := [], isInterruptible := false, isSilent := false }
      | [] => m

end RaceControl.Host.Shell
