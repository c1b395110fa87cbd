/-!
The states of a supervised server and the transitions allowed between them.
-/
namespace RaceControl

inductive State
  | idle
  | launching
  | active
  | stopping
  | tearingDown
  deriving DecidableEq, Repr, Inhabited

namespace State

def name : State → String
  | .idle => "Idle"
  | .launching => "Launching"
  | .active => "Active"
  | .stopping => "Stopping"
  | .tearingDown => "TearingDown"

def all : List State := [.idle, .launching, .active, .stopping, .tearingDown]

/-- Whether the second state may follow the first. -/
def allows : State → State → Bool
  | .idle, .launching => true
  | .launching, .active => true
  | .launching, .idle => true
  | .active, .stopping => true
  | .active, .tearingDown => true
  | .stopping, .tearingDown => true
  | .tearingDown, .idle => true
  | _, _ => false

def successors (s : State) : List State := all.filter s.allows

end State

/-- A step between states that is not allowed. -/
structure TransitionError where
  source : State
  target : State
  deriving DecidableEq, Repr

def TransitionError.message (e : TransitionError) : String :=
  s!"invalid transition: {e.source.name} -> {e.target.name}"

def State.transition (s target : State) : Except TransitionError State :=
  if s.allows target then .ok target else .error ⟨s, target⟩

end RaceControl
