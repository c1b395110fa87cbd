/-!
Port numbers and their text: an optional plus sign, then decimal digits with any number of
leading zeros.
-/
namespace RaceControl

abbrev Port := UInt16

namespace Port

/-- The number written by a run of decimal digits, most significant first. -/
def decimal (digits : List Char) : Nat :=
  digits.foldl (fun n c => n * 10 + (c.toNat - '0'.toNat)) 0

/-- The text after an optional leading plus sign. -/
def unsigned : List Char → List Char
  | '+' :: digits => digits
  | digits => digits

/-- Accepts digits alone, apart from one plus sign in front, whose value fits sixteen bits. -/
def parse? (text : List Char) : Option Port :=
  let digits := unsigned text
  if digits ≠ [] ∧ digits.all Char.isDigit ∧ decimal digits < UInt16.size then
    some (UInt16.ofNat (decimal digits))
  else none

end Port
end RaceControl
