import RaceControl.Supervisor.Call

/-!
One client of a supervisor, step by step. A call looks at the supervisor first, then makes its
demands one after another, and the next call begins only when it has returned.
-/
namespace RaceControl

/-- Where a client stands in his call. -/
inductive CallStage
  | free
  /-- Whether a session runs has been looked at. -/
  | looking (call : Call) (running : Bool)
  | demanding (call : Call) (demand : Demand) (next : Option Demand)
  | awaiting (call : Call) (request : Request) (next : Option Demand)
  deriving DecidableEq, Repr, Inhabited

structure Client where
  system : System
  stage : CallStage
  nextTicket : Nat
  deriving Inhabited

inductive ClientInput
  /-- A step of the supervisor that is not the client's doing. -/
  | others (input : Input)
  | call (call : Call)
  /-- Event and addressing are looked at. -/
  | look
  | demand

/-- What is seen of a client and of his supervisor. -/
inductive ClientEvent
  | saw (effect : Effect)
  | asked (call : Call) (request : Request)
  | returned (call : Call) (result : Except SupervisorError Unit)

namespace Client

def fresh (settings : Settings) (collaborators : Collaborators) : Client :=
  ⟨.fresh settings collaborators, .free, 0⟩

def result? (ticket : Nat) : Effect → Option (Except SupervisorError Unit)
  | .answered answered result _ => if answered = ticket then some result else none
  | _ => none

/-- Goes on when a demand has been answered. -/
def goOn (call : Call) (next : Option Demand) (result : Except SupervisorError Unit) :
    CallStage × List ClientEvent :=
  match Call.following next result with
  | .inl demand => (.demanding call demand none, [])
  | .inr result => (.free, [.returned call result])

/-- Looks for the answer that is waited for in what a step has shown. -/
def listen (c : Client) (more : List Effect) : Client × List ClientEvent :=
  match c.stage with
  | .awaiting call request next =>
    match more.findSome? (result? request.ticket) with
    | some result => ({ c with stage := (goOn call next result).1 }, (goOn call next result).2)
    | none => (c, [])
  | _ => (c, [])

/-- Takes over what a step has made of the supervisor, and listens. -/
def attend (c : Client) (step : System × List Effect) : Client × List ClientEvent :=
  let (c, news) := { c with system := step.1 }.listen step.2
  (c, step.2.map .saw ++ news)

/-- Whether a step of the supervisor is left to others. Nobody else makes demands, the client waits
for every answer, and nothing destroys the loop. -/
def isLeft : Input → Bool
  | .submit _ | .hangUp _ | .destroy => false
  | _ => true

def step? (c : Client) : ClientInput → Option (Client × List ClientEvent)
  | .others i => if isLeft i then (c.system.step? i).map c.attend else none
  | .call call =>
    match c.stage with
    | .free => some ({ c with stage := .looking call c.system.isRunning }, [])
    | _ => none
  | .look =>
    match c.stage with
    | .looking call running =>
      match call.plan running c.system.shared with
      | .error e => some ({ c with stage := .free }, [.returned call (.error e)])
      | .ok plan => some ({ c with stage := .demanding call plan.first plan.second }, [])
    | _ => none
  | .demand =>
    match c.stage with
    | .demanding call demand next =>
      let request : Request := ⟨c.nextTicket, demand⟩
      (c.system.step? (.submit request)).map fun step =>
        let (c, news) := { c with
          stage := .awaiting call request next, nextTicket := c.nextTicket + 1 }.attend step
        (c, .asked call request :: news)
    | _ => none

/-- A finite run of a client with his supervisor. -/
inductive Run (start : Client) : Client → List ClientEvent → Prop
  | none : Run start start []
  | step {c d : Client} {events more : List ClientEvent} {i : ClientInput} :
    Run start c events → c.step? i = some (d, more) → Run start d (events ++ more)

end Client
end RaceControl
