/-!
Waiting on something that has a clock of its own: whatever is due is done before time passes.
-/
namespace RaceControl.Rehearsal

class Clocked (α : Type) where
  now : α → Nat
  /-- Puts the clock forward to a moment, and never back. -/
  advance : α → Nat → α
  /-- Does the next thing that is due at this moment. -/
  next? : α → Option α
  /-- The next moment at which something can become due. -/
  nextEvent? : α → Option Nat

variable {α : Type} [Clocked α]

def isBeyond : Option Nat → Nat → Bool
  | some deadline, t => deadline < t
  | none, _ => false

/-- Does what is due, up to so many things. -/
def settle : Nat → α → α
  | 0, a => a
  | fuel + 1, a =>
    match Clocked.next? a with
    | some a => settle fuel a
    | none => a

/-- How many things are done in one moment at most. -/
def haste : Nat := 50000

/-- How many moments a wait goes through at most. -/
def patience : Nat := 100000

/-- Lets time pass until a test holds, or nothing more happens before the deadline. -/
def runUntil (deadline : Option Nat) (test : α → Bool) : Nat → α → α
  | 0, a => a
  | fuel + 1, a =>
    let a := settle haste a
    if test a then a
    else
      match Clocked.nextEvent? a with
      | some t =>
        if isBeyond deadline t then Clocked.advance a (deadline.getD t)
        else runUntil deadline test fuel (Clocked.advance a t)
      | none => Clocked.advance a (deadline.getD (Clocked.now a))

/-- How long a wait for something uncertain lasts, in milliseconds. -/
def waitLimit : Nat := 4000

/-- Waits for something that may not come. -/
def await (a : α) (test : α → Bool) : α :=
  runUntil (some (Clocked.now a + waitLimit)) test patience a

/-- Waits for something that is sure to come. -/
def complete (a : α) (test : α → Bool) : α := runUntil none test patience a

end RaceControl.Rehearsal
