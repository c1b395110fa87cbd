/-!
Signals and the ways a process ends.
-/
namespace RaceControl

structure Signal where
  number : Nat
  deriving DecidableEq, Repr, Inhabited

namespace Signal

/-- Signal names in the order of their numbers, from one. -/
def names : List String :=
  ["HUP", "INT", "QUIT", "ILL", "TRAP", "ABRT", "BUS", "FPE", "KILL", "USR1", "SEGV", "USR2",
   "PIPE", "ALRM", "TERM", "STKFLT", "CHLD", "CONT", "STOP", "TSTP", "TTIN", "TTOU", "URG",
   "XCPU", "XFSZ", "VTALRM", "PROF", "WINCH", "IO", "PWR", "SYS"]

def hup : Signal := ⟨1⟩
def int : Signal := ⟨2⟩
def kill : Signal := ⟨9⟩
def term : Signal := ⟨15⟩

def name? (s : Signal) : Option String := if s.number = 0 then none else names[s.number - 1]?

def ofName? (name : String) : Option Signal :=
  (names.findIdx? (· == name)).map fun i => ⟨i + 1⟩

/-- Whether a process that has not asked otherwise ends on the signal. -/
def isFatal (s : Signal) : Bool := !([17, 18, 19, 20, 21, 22, 23, 28].contains s.number)

end Signal

/-- How a process ended: by itself with a status, or on a signal. -/
inductive ExitStatus
  | code (status : Nat)
  | signal (s : Signal)
  deriving DecidableEq, Repr, Inhabited

namespace ExitStatus

def isSuccess : ExitStatus → Bool
  | .code 0 => true
  | _ => false

def text : ExitStatus → String
  | .code status => s!"exit status: {status}"
  | .signal s =>
    match s.name? with
    | some name => s!"signal: {s.number} (SIG{name})"
    | none => s!"signal: {s.number}"

end ExitStatus
end RaceControl
