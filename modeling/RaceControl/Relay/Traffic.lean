import RaceControl.Journal
import RaceControl.Relay

/-!
What an open relay does with the datagrams that arrive. Each loop holds at most one datagram: the
receiving loop forwards it and then hands it to the callback, the returning loop sends it to the
server. Nothing that fails on the way ends a loop.
-/
namespace RaceControl

/-- Where the receiving loop stands. -/
inductive Receiving
  | waiting
  /-- The datagram has been handed to the forwarding socket. -/
  | forwarding (payload : List UInt8)
  /-- The callback runs. -/
  | dispatching (payload : List UInt8)
  deriving DecidableEq, Repr, Inhabited

/-- Where the loop stands that returns the replies of the destination. -/
inductive Returning
  | waiting
  | sending (payload : List UInt8)
  deriving DecidableEq, Repr, Inhabited

/-- How a callback ended: a panic carries its text, if it is text. -/
inductive Reaction
  | returned
  | panicked (text : Option String)
  deriving DecidableEq, Repr, Inhabited

inductive RelayEvent
  | received (payload : List UInt8)
  | receiveFailed (cause : OsError)
  | forwarded (result : Except OsError Unit)
  | reacted (reaction : Reaction)
  | replied (payload : List UInt8)
  | replyFailed (cause : OsError)
  | returned (result : Except OsError Unit)

inductive RelayAction
  | forward (payload : List UInt8)
  | call (payload : List UInt8)
  | reply (payload : List UInt8)
  | logPanic (reason : String)
  deriving DecidableEq, Repr, Inhabited

namespace RelayAction

/-- What an action leaves in the log. -/
def logged? : RelayAction → Option LogEntry
  | .logPanic reason => some (.callbackPanicked reason)
  | _ => none

def logText? (action : RelayAction) : Option String := action.logged?.map LogEntry.message

end RelayAction

/-- The complaint about a callback: its panic is logged, with its text if there is one. -/
def Reaction.complaint : Reaction → List RelayAction
  | .returned => []
  | .panicked text => [.logPanic (text.getD "unknown panic")]

/-- Both loops of an open relay. -/
structure Traffic where
  receiving : Receiving
  returning : Returning
  deriving DecidableEq, Repr, Inhabited

namespace Traffic

def quiet : Traffic := ⟨.waiting, .waiting⟩

/-- The step that an event makes possible; none where the loop concerned does not wait for it. -/
def step? (forwards : Bool) (t : Traffic) : RelayEvent → Option (Traffic × List RelayAction)
  | .received payload =>
    if t.receiving = .waiting then
      if forwards then some ({ t with receiving := .forwarding payload }, [.forward payload])
      else some ({ t with receiving := .dispatching payload }, [.call payload])
    else none
  | .receiveFailed _ => if t.receiving = .waiting then some (t, []) else none
  | .forwarded _ =>
    match t.receiving with
    | .forwarding payload => some ({ t with receiving := .dispatching payload }, [.call payload])
    | _ => none
  | .reacted reaction =>
    match t.receiving with
    | .dispatching _ => some ({ t with receiving := .waiting }, reaction.complaint)
    | _ => none
  | .replied payload =>
    if forwards ∧ t.returning = .waiting then
      some ({ t with returning := .sending payload }, [.reply payload])
    else none
  | .replyFailed _ => if forwards ∧ t.returning = .waiting then some (t, []) else none
  | .returned _ =>
    match t.returning with
    | .sending _ => some ({ t with returning := .waiting }, [])
    | .waiting => none

/-- What a run of events makes a relay do; none where an event comes out of turn. -/
def run? (forwards : Bool) : Traffic → List RelayEvent → Option (Traffic × List RelayAction)
  | t, [] => some (t, [])
  | t, e :: es => do
    let (t, actions) ← t.step? forwards e
    let (t, more) ← run? forwards t es
    return (t, actions ++ more)

end Traffic

namespace Relay

/-- What a relay does with one datagram from the server whose callback ends in a given way. A
closed relay receives none. -/
def receive (r : Relay) (payload : List UInt8) (reaction : Reaction) : List RelayAction :=
  let forwards := r.forwarding.isSome
  let events : List RelayEvent :=
    .received payload :: (if forwards then [.forwarded (.ok ())] else []) ++ [.reacted reaction]
  if r.isOpen then ((Traffic.quiet.run? forwards events).map (·.2)).getD [] else []

/-- What a relay does with one reply of the destination that events are forwarded to. -/
def receiveReply (r : Relay) (payload : List UInt8) : List RelayAction :=
  let events : List RelayEvent := [.replied payload, .returned (.ok ())]
  if r.isOpen then ((Traffic.quiet.run? r.forwarding.isSome events).map (·.2)).getD [] else []

end Relay
end RaceControl
