import RaceControl.Data.Datum
import RaceControl.Data.Decimal

/-!
Compact JSON text of a datum. Only quotes, backslashes and control characters are escaped.
-/
namespace RaceControl.Json

def hexDigit (n : Nat) : Char := (Nat.toDigits 16 n).headD '0'

/-- A character as it stands between quotes. -/
def escape (c : Char) : List Char :=
  if c = '"' then ['\\', '"']
  else if c = '\\' then ['\\', '\\']
  else if c = '\x08' then ['\\', 'b']
  else if c = '\x0c' then ['\\', 'f']
  else if c = '\n' then ['\\', 'n']
  else if c = '\r' then ['\\', 'r']
  else if c = '\t' then ['\\', 't']
  else if c.toNat < 0x20 then
    ['\\', 'u', '0', '0', hexDigit (c.toNat / 16), hexDigit (c.toNat % 16)]
  else [c]

def quoted (text : List Char) : List Char := '"' :: text.flatMap escape ++ ['"']

def integer (n : Int) : List Char :=
  if n < 0 then '-' :: Nat.toDigits 10 n.natAbs else Nat.toDigits 10 n.toNat

/-- Infinite floats and those that are no number have no JSON form but `null`. -/
def float (x : Float) : List Char :=
  if x.isNaN || x.isInf then "null".toList else Decimal.ofBits x.toBits

mutual

def print : Datum → List Char
  | .null => "null".toList
  | .bool true => "true".toList
  | .bool false => "false".toList
  | .int n => integer n
  | .float x => float x
  | .text s => quoted s.toList
  | .unreadable => "null".toList
  | .list [] => ['[', ']']
  | .list (d :: ds) => '[' :: print d ++ printItems ds
  | .record [] => ['\x7b', '\x7d']
  | .record ((name, d) :: ms) =>
    '\x7b' :: quoted name.toList ++ ':' :: print d ++ printMembers ms

def printItems : List Datum → List Char
  | [] => [']']
  | d :: ds => ',' :: print d ++ printItems ds

def printMembers : List (String × Datum) → List Char
  | [] => ['\x7d']
  | (name, d) :: ms => ',' :: quoted name.toList ++ ':' :: print d ++ printMembers ms

end

def text (d : Datum) : String := String.ofList (print d)

end RaceControl.Json
