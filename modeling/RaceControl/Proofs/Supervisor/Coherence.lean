import Mathlib.Tactic.Common
import Mathlib.Tactic.MkIffOfInductiveProp
import RaceControl.Supervisor.Step

/-!
How the pieces of a supervisor belong together at every place where its control loop can stand:
the state, the private session, and what callers can see of it.
-/
namespace RaceControl

/-- A teardown is never followed by more waiting for the exit that began it. -/
def Resumption.IsFinal : Resumption → Prop
  | .keepStopping _ => False
  | _ => True

/-- Nothing of a session is there. -/
@[mk_iff] structure Vacant (session : Option Session) (shared : Shared) : Prop where
  session : session = none
  event : shared.event = none
  relay : shared.relay = none
  children : shared.children.tracked = []

/-- A session is there with its event and its relay, as callers see them. -/
@[mk_iff] structure Occupied (session : Option Session) (shared : Shared) (x : Session)
    (e : RaceEvent) (n : Nat) : Prop where
  session : session = some x
  event : shared.event = some e
  lastEvent : shared.lastEvent = some e
  relay : shared.relay = some n

/-- A session that callers do not see any more. -/
@[mk_iff] structure Leaving (session : Option Session) (shared : Shared) (x : Session) : Prop where
  session : session = some x
  event : shared.event = none
  relay : shared.relay = none

section
variable {session : Option Session} {shared : Shared} {x : Session} {e : RaceEvent} {n : Nat}

lemma Occupied.with_children (occupied : Occupied session shared x e n) (children : Children) :
    Occupied session { shared with children } x e n :=
  ⟨occupied.session, occupied.event, occupied.lastEvent, occupied.relay⟩

lemma Leaving.with_children (leaving : Leaving session shared x) (children : Children) :
    Leaving session { shared with children } x :=
  ⟨leaving.session, leaving.event, leaving.relay⟩

lemma Leaving.with_waiters (leaving : Leaving session shared x) (waiters : List Nat) :
    Leaving session { shared with waiters } x :=
  ⟨leaving.session, leaving.event, leaving.relay⟩

end

def HasOpenRelay (relays : List Relay) (n : Nat) : Prop :=
  ∃ relay, relays[n]? = some relay ∧ relay.isOpen = true

/-- What an observer can rely on wherever the control loop stands. -/
@[mk_iff] structure Presentable (published : State) (shared : Shared) : Prop where
  relay_iff : shared.relay.isSome = shared.event.isSome
  lastEvent : ∀ e, shared.event = some e → shared.lastEvent = some e
  running : published = .active ∨ published = .stopping → shared.event.isSome = true
  idle : published = .idle → shared.event = none ∧ shared.children.tracked = []

namespace System

/-- A session whose relay is open. -/
def Serves (s : System) (x : Session) (e : RaceEvent) : Prop :=
  ∃ n, Occupied s.session s.shared x e n ∧ HasOpenRelay s.relays n

/-- What holds at a stage of a launch. Up to the adoption the session is not there yet. -/
def LaunchFits (s : System) (l : Launch) : Prop :=
  match l.stage with
  | .announce => s.machine = .idle ∧ Vacant s.session s.shared
  | .readDirectory | .readOptions _ => s.machine = .launching ∧ Vacant s.session s.shared
  | .openRelay .. =>
    s.machine = .launching ∧ Vacant s.session s.shared ∧ s.shared.addressing = l.addressing
  | .startServer _ _ n | .adopt _ _ n _ =>
    s.machine = .launching ∧ Vacant s.session s.shared ∧ s.shared.addressing = l.addressing ∧
      HasOpenRelay s.relays n
  | .startWrapper .. | .startTracker .. | .startPlugins .. | .startCommands .. | .finish =>
    s.machine = .launching ∧ s.shared.addressing = l.addressing ∧ ∃ x, s.Serves x l.event

lemma LaunchFits.launching {s : System} {l : Launch} (fits : s.LaunchFits l)
    (announced : l.stage ≠ .announce) : s.machine = .launching := by
  cases stage : l.stage with
  | announce => exact absurd stage announced
  | _ =>
    simp only [LaunchFits, stage] at fits
    exact fits.1

def TeardownFits (s : System) : TeardownStage → Prop
  | .forget => ∃ x e, s.Serves x e
  | .closeRelay relay =>
    (∃ x, Leaving s.session s.shared x) ∧ ∃ n, relay = some n ∧ HasOpenRelay s.relays n
  | .stopWrapper | .killChildren => ∃ x, Leaving s.session s.shared x
  | .prune | .signal _ | .finish =>
    (∃ x, Leaving s.session s.shared x) ∧ s.shared.children.tracked = []

def RelayIsOpen (s : System) : Prop := ∀ n, s.shared.relay = some n → HasOpenRelay s.relays n

/-- What holds in a phase. A loop that has given up its last session leaves it as it was. -/
def PhaseFits (s : System) : Prop :=
  match s.phase with
  | .waiting =>
    s.machine = .idle ∧ Vacant s.session s.shared ∨
      (s.machine = .active ∨ s.machine = .stopping) ∧ ∃ x e, s.Serves x e
  | .launching l => s.LaunchFits l
  | .stopping stop => s.machine = .stopping ∧ ∃ e, s.Serves stop.session e
  | .tearingDown stage next => s.machine = .tearingDown ∧ s.TeardownFits stage ∧ next.IsFinal
  | .finished =>
    s.machine = .idle ∧ Vacant s.session s.shared ∨
      s.machine = .stopping ∧ ∃ x e n, Occupied s.session s.shared x e n
  | .destroyed => Presentable s.published s.shared ∧ s.RelayIsOpen

structure Coherent (s : System) : Prop where
  published : s.published = s.machine
  phase : s.PhaseFits

end System
end RaceControl
