import RaceControl.Data.Datum
import RaceControl.Data.Decimal

/-!
Reading JSON text. Each reader takes the characters before it and returns those behind what it
read; the fuel bounds the nesting and the number of members together, and the length of the text is
always enough.
-/
namespace RaceControl.Json

def isBlank (c : Char) : Bool := c == ' ' || c == '\n' || c == '\t' || c == '\r'

def skipBlanks : List Char → List Char
  | c :: cs => if isBlank c then skipBlanks cs else c :: cs
  | [] => []

def hexValue? (c : Char) : Option Nat :=
  if c.isDigit then some (c.toNat - '0'.toNat)
  else if 'a' ≤ c ∧ c ≤ 'f' then some (c.toNat - 'a'.toNat + 10)
  else if 'A' ≤ c ∧ c ≤ 'F' then some (c.toNat - 'A'.toNat + 10)
  else none

/-- The sixteen bit unit that four hexadecimal digits name. -/
def unit? (a b c d : Char) : Option Nat := do
  return (((← hexValue? a) * 16 + (← hexValue? b)) * 16 + (← hexValue? c)) * 16 + (← hexValue? d)

/-- The character of a one letter escape. -/
def shortEscape? (c : Char) : Option Char :=
  match c with
  | '"' => some '"'
  | '\\' => some '\\'
  | '/' => some '/'
  | 'b' => some '\x08'
  | 'f' => some '\x0c'
  | 'n' => some '\n'
  | 'r' => some '\r'
  | 't' => some '\t'
  | _ => none

/-- The rest of a quoted text after its opening quote, as code points and halves of such. -/
def units : List Char → Option (List Nat × List Char)
  | '"' :: rest => some ([], rest)
  | '\\' :: 'u' :: a :: b :: c :: d :: rest => do
    let unit ← unit? a b c d
    let (more, rest) ← units rest
    return (unit :: more, rest)
  | '\\' :: c :: rest => do
    let plain ← shortEscape? c
    let (more, rest) ← units rest
    return (plain.toNat :: more, rest)
  | c :: rest =>
    if c.toNat < 0x20 then none
    else do
      let (more, rest) ← units rest
      return (c.toNat :: more, rest)
  | [] => none

def isHigh (u : Nat) : Bool := 0xd800 ≤ u && u < 0xdc00

def isLow (u : Nat) : Bool := 0xdc00 ≤ u && u < 0xe000

/-- Joins the halves of characters; none where one stands alone. -/
def characters? : List Nat → Option (List Char)
  | [] => some []
  | [u] => if isHigh u || isLow u then none else some [Char.ofNat u]
  | u :: v :: us =>
    if isHigh u then
      if isLow v then do
        let more ← characters? us
        return Char.ofNat (0x10000 + (u - 0xd800) * 0x400 + (v - 0xdc00)) :: more
      else none
    else if isLow u then none
    else do
      let more ← characters? (v :: us)
      return Char.ofNat u :: more

/-- The digits at the front of a text. -/
def digits (cs : List Char) : List Char × List Char :=
  (cs.takeWhile Char.isDigit, cs.dropWhile Char.isDigit)

def natural (ds : List Char) : Nat := ds.foldl (fun n c => n * 10 + (c.toNat - '0'.toNat)) 0

/-- An exponent, if one follows. -/
def exponent? : List Char → Option (Option Int × List Char)
  | c :: cs =>
    if c = 'e' ∨ c = 'E' then
      let (negative, cs) := match cs with
        | '-' :: cs => (true, cs)
        | '+' :: cs => (false, cs)
        | cs => (false, cs)
      let (ds, rest) := digits cs
      if ds.isEmpty then none
      else some (some (if negative then -(natural ds : Int) else natural ds), rest)
    else some (none, c :: cs)
  | [] => some (none, [])

/-- A fraction, if one follows. -/
def fraction? : List Char → Option (Option (List Char) × List Char)
  | '.' :: cs =>
    let (ds, rest) := digits cs
    if ds.isEmpty then none else some (some ds, rest)
  | cs => some (none, cs)

/-- A number. Leading zeros are refused. What has no fraction and no exponent is a whole number,
except that minus zero is a float. -/
def number (cs : List Char) : Option (Datum × List Char) := do
  let (negative, cs) := match cs with
    | '-' :: cs => (true, cs)
    | cs => (false, cs)
  let (whole, cs) := digits cs
  if whole.isEmpty ∨ (whole.length > 1 ∧ whole.head? = some '0') then none
  let (fraction, cs) ← fraction? cs
  let (exponent, cs) ← exponent? cs
  if fraction.isNone ∧ exponent.isNone ∧ ¬(negative ∧ natural whole = 0) then
    return (.int (if negative then -(natural whole : Int) else natural whole), cs)
  let tail := fraction.getD []
  let x := Decimal.toFloat (natural (whole ++ tail)) (exponent.getD 0 - tail.length)
  return (.float (if negative then -x else x), cs)

/-- The text behind a fixed word. -/
def word? : List Char → List Char → Option (List Char)
  | [], cs => some cs
  | w :: ws, c :: cs => if w = c then word? ws cs else none
  | _ :: _, [] => none

def literal (cs : List Char) : Option (Datum × List Char) :=
  match word? "null".toList cs, word? "true".toList cs, word? "false".toList cs with
  | some rest, _, _ => some (.null, rest)
  | _, some rest, _ => some (.bool true, rest)
  | _, _, some rest => some (.bool false, rest)
  | _, _, _ => none

/-- The name of a member, if it can be read, and the text behind it. -/
def name (cs : List Char) : Option (Option String × List Char) :=
  match cs with
  | '"' :: cs => (units cs).map fun (us, rest) => ((characters? us).map String.ofList, rest)
  | _ => none

/-- The record of members, if all their names can be read. -/
def record (members : List (Option String × Datum)) : Datum :=
  match members.mapM fun (name, d) => name.map (·, d) with
  | some members => .record members
  | none => .unreadable

mutual

/-- A value, blanks before it allowed. -/
def value : Nat → List Char → Option (Datum × List Char)
  | 0, _ => none
  | fuel + 1, cs =>
    match skipBlanks cs with
    | '"' :: cs => do
      let (us, rest) ← units cs
      match characters? us with
      | some chars => return (.text (String.ofList chars), rest)
      | none => return (.unreadable, rest)
    | '[' :: cs =>
      match skipBlanks cs with
      | ']' :: rest => some (.list [], rest)
      | cs => do
        let (items, rest) ← items fuel cs
        return (.list items, rest)
    | '\x7b' :: cs =>
      match skipBlanks cs with
      | '\x7d' :: rest => some (.record [], rest)
      | cs => do
        let (members, rest) ← members fuel cs
        return (record members, rest)
    | c :: cs => if c = '-' ∨ c.isDigit then number (c :: cs) else literal (c :: cs)
    | [] => none

/-- The items of a list up to its closing bracket, at least one. -/
def items : Nat → List Char → Option (List Datum × List Char)
  | 0, _ => none
  | fuel + 1, cs => do
    let (d, rest) ← value fuel cs
    match skipBlanks rest with
    | ']' :: rest => return ([d], rest)
    | ',' :: rest => do
      let (ds, rest) ← items fuel rest
      return (d :: ds, rest)
    | _ => none

/-- The members of a record up to its closing brace, at least one. -/
def members : Nat → List Char → Option (List (Option String × Datum) × List Char)
  | 0, _ => none
  | fuel + 1, cs => do
    let (name, rest) ← name (skipBlanks cs)
    match skipBlanks rest with
    | ':' :: rest => do
      let (d, rest) ← value fuel rest
      match skipBlanks rest with
      | '\x7d' :: rest => return ([(name, d)], rest)
      | ',' :: rest => do
        let (ms, rest) ← members fuel rest
        return ((name, d) :: ms, rest)
      | _ => none
    | _ => none

end

/-- The datum that a whole text writes. -/
def parse? (text : String) : Option Datum :=
  match value (2 * text.length + 2) text.toList with
  | some (d, rest) => if (skipBlanks rest).isEmpty then some d else none
  | none => none

end RaceControl.Json
