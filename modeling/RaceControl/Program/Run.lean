import RaceControl.Program.LaunchFile
import RaceControl.Supervisor.Call

/-!
The program: it starts one session, waits until the session has ended or an interrupt arrives, and
stops the session in the latter case.
-/
namespace RaceControl

inductive ProgramFailure
  | settings (cause : SettingsError)
  | tables
  | supervisor (cause : SupervisorError)
  deriving DecidableEq, Repr, Inhabited

/-- What the program reports about its own course. -/
inductive Notice
  | exited
  | interrupted
  | leaving
  deriving DecidableEq, Repr, Inhabited

def Notice.text : Notice → String
  | .exited => "Server process exited"
  | .interrupted => "Shutdown signal received, stopping server..."
  | .leaving => "Race supervisor shutting down"

inductive ProgramStage
  /-- The start has been asked for. -/
  | starting
  /-- The session runs, as far as the program knows. -/
  | waiting
  /-- The stop has been asked for. -/
  | stopping
  /-- The stop has run out of time, and the session is waited for without a limit. -/
  | draining
  | left (result : Except ProgramFailure Unit)
  deriving Inhabited

structure Program where
  system : System
  stage : ProgramStage
  /-- The result of the request that has been made last. -/
  reply : Option (Except SupervisorError Unit)
  deriving Inhabited

inductive ProgramInput
  /-- A step of the supervisor other than a call of its user. -/
  | supervisor (input : Input)
  /-- The program looks at the result that it waits for. -/
  | hear
  /-- The program sees that the session has ended. -/
  | seeDone
  | interrupt
  /-- The program sees that the supervisor is idle. -/
  | seeIdle

inductive ProgramEffect
  | supervisor (effect : Effect)
  | noticed (notice : Notice)
  | reported (cause : SupervisorError)

/-- How a report is written in the log. -/
def SupervisorError.report (e : SupervisorError) : String := s!"[{e.code}] {e.message}"

namespace Program

/-- Inputs that stand for calls of the supervisor's user, who is the program alone. -/
def isUserCall : Input → Bool
  | .submit _ => true
  | .hangUp _ => true
  | .cloneHandle => true
  | .dropHandle => true
  | .destroy => true
  | .openChannel _ => true
  | .receiveSignal _ => true
  | .drainChannel _ => true
  | .closeChannel _ => true
  | .beginSend .. => true
  | _ => false

def startTicket : Nat := 0

def stopTicket : Nat := 1

/-- The channel on which the program waits for the end of the session, and its room. -/
def doneChannel : Nat := 0

def doneCapacity : Nat := 1

/-- The program once it has asked for its session, having registered for the end of it first. -/
def begin (settings : Settings) (tables : LaunchTables) : Program :=
  let system := System.fresh settings ⟨false, false⟩
  let addressing :=
    Addressing.direct tables.server.udpPluginAddress tables.server.udpPluginLocalPort
  let demand : Demand := .start ⟨tables.description⟩ addressing
  let after (s : System) (i : Input) : System := ((s.step? i).map (·.1)).getD s
  let system := after (after system (.openChannel doneCapacity)) (.submit ⟨startTicket, demand⟩)
  ⟨system, .starting, none⟩

/-- What a program with these files does first: it gives up, or asks for its session. -/
def ofFile (file : SettingsFile) : Except ProgramFailure (Program × LaunchTables) :=
  match file.settings, LaunchTables.ofFile? file with
  | .error cause, _ => .error (.settings cause)
  | .ok _, none => .error .tables
  | .ok settings, some tables => .ok (begin settings tables, tables)

def leave (p : Program) (result : Except ProgramFailure Unit) : Program :=
  { p with stage := .left result }

/-- Whether the end of the session has been signalled. -/
def isDone (p : Program) : Bool :=
  match p.system.channels[doneChannel]? with
  | some channel => channel.queued > 0
  | none => false

def answerIn (effects : List Effect) : Option (Except SupervisorError Unit) :=
  effects.findSome? fun
    | .answered _ result true => some result
    | _ => none

def hear (p : Program) (result : Except SupervisorError Unit) :
    Option (Program × List ProgramEffect) :=
  let p := { p with reply := none }
  match p.stage, result with
  | .starting, .ok () => some ({ p with stage := .waiting }, [])
  | .starting, .error e => some (p.leave (.error (.supervisor e)), [])
  | .stopping, .ok () => some (p.leave (.ok ()), [.noticed .leaving])
  | .stopping, .error e =>
    if e.isAmbiguous then some ({ p with stage := .draining }, [.reported e])
    else some (p.leave (.ok ()), [.reported e, .noticed .leaving])
  | _, _ => none

def step? (p : Program) : ProgramInput → Option (Program × List ProgramEffect)
  | .supervisor input =>
    if isUserCall input then none
    else
      (p.system.step? input).map fun (system, effects) =>
        ({ p with system, reply := p.reply <|> answerIn effects }, effects.map .supervisor)
  | .hear => p.reply.bind p.hear
  | .seeDone =>
    match p.stage with
    | .waiting =>
      if p.isDone then some (p.leave (.ok ()), [.noticed .exited, .noticed .leaving]) else none
    | _ => none
  | .interrupt =>
    match p.stage with
    | .waiting =>
      (p.system.step? (.submit ⟨stopTicket, .stop⟩)).map fun (system, _) =>
        ({ p with system, stage := .stopping }, [.noticed .interrupted])
    | _ => none
  | .seeIdle =>
    match p.stage, p.system.waitIdle? with
    | .draining, some (.ok ()) => some (p.leave (.ok ()), [.noticed .leaving])
    | .draining, some (.error e) => some (p.leave (.error (.supervisor e)), [])
    | _, _ => none

/-- A finite run of a program, with all that is seen of it and of its supervisor. -/
inductive Run (start : Program) : Program → List ProgramEffect → Prop
  | none : Run start start []
  | step {p q : Program} {seen more : List ProgramEffect} {i : ProgramInput} :
    Run start p seen → p.step? i = some (q, more) → Run start q (seen ++ more)

end Program
end RaceControl
