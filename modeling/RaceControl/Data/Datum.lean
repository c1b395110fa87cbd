/-!
The values that a document of settings or options holds, whatever its notation.
-/
namespace RaceControl

inductive Datum
  | null
  | bool (b : Bool)
  | int (n : Int)
  | float (x : Float)
  | text (s : String)
  /-- A text whose escapes name half a character, or a record with such a name in it. It can be
  skipped but not read. -/
  | unreadable
  | list (items : List Datum)
  /-- Members in the order they are written, repetitions included. -/
  | record (members : List (String × Datum))
  deriving Inhabited

namespace Datum

def bool? : Datum → Option Bool
  | .bool b => some b
  | _ => none

def text? : Datum → Option String
  | .text s => some s
  | _ => none

/-- A whole number below the limit. -/
def below? (limit : Nat) : Datum → Option Nat
  | .int n => if 0 ≤ n ∧ n < limit then some n.toNat else none
  | _ => none

def listOf? {α : Type} (item? : Datum → Option α) : Datum → Option (List α)
  | .list items => items.mapM item?
  | _ => none

/-- What is written for each of the named members. A record may hold other members too but must not
repeat a named one; a list holds the members in the order of their names, and may end early. -/
def align? (names : List String) : Datum → Option (List (Option Datum))
  | .record members =>
    names.mapM fun name =>
      match members.filter (·.1 == name) with
      | [] => some none
      | [(_, d)] => some (some d)
      | _ => none
  | .list items =>
    if items.length ≤ names.length then
      some (names.mapIdx fun i _ => items[i]?)
    else none
  | _ => none

/-- Reads a member, or takes the default where it is not written. -/
def member? {α : Type} (read? : Datum → Option α) (default : α) : Option Datum → Option α
  | none => some default
  | some d => read? d

end Datum
end RaceControl
