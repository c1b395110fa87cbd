import RaceControl.Json.Printer
import RaceControl.Toml.Number

/-!
Dates and times: what may be written, and the one text that each of them has.
-/
namespace RaceControl.Toml

structure CalendarDate where
  year : Nat
  month : Nat
  day : Nat
  deriving DecidableEq, Repr, Inhabited

structure ClockTime where
  hour : Nat
  minute : Nat
  second : Nat
  nanosecond : Nat
  deriving DecidableEq, Repr, Inhabited

inductive Offset
  | utc
  | shifted (hours : Int) (minutes : Nat)
  deriving DecidableEq, Repr, Inhabited

structure DateTime where
  date : Option CalendarDate
  time : Option ClockTime
  offset : Option Offset
  deriving DecidableEq, Repr, Inhabited

namespace DateTime

/-- The number of so many digits in front of a text. -/
def number? (width : Nat) (cs : List Char) : Option (Nat × List Char) :=
  let ds := cs.take width
  if ds.length = width ∧ ds.all Char.isDigit then some (Number.natural 10 ds, cs.drop width)
  else none

def char? (c : Char) : List Char → Option (List Char)
  | d :: cs => if c = d then some cs else none
  | [] => none

def date? (cs : List Char) : Option (CalendarDate × List Char) := do
  let (year, cs) ← number? 4 cs
  let (month, cs) ← number? 2 (← char? '-' cs)
  let (day, cs) ← number? 2 (← char? '-' cs)
  if 1 ≤ month ∧ month ≤ 12 ∧ 1 ≤ day ∧ day ≤ 31 then some (⟨year, month, day⟩, cs) else none

/-- Nanoseconds, of which further digits are dropped. -/
def nanoseconds (ds : List Char) : Nat :=
  Number.natural 10 ((ds ++ List.replicate 9 '0').take 9)

def fraction? : List Char → Option (Nat × List Char)
  | '.' :: cs =>
    let ds := cs.takeWhile Char.isDigit
    if ds.isEmpty then none else some (nanoseconds ds, cs.dropWhile Char.isDigit)
  | cs => some (0, cs)

def time? (cs : List Char) : Option (ClockTime × List Char) := do
  let (hour, cs) ← number? 2 cs
  let (minute, cs) ← number? 2 (← char? ':' cs)
  let (second, cs) ← number? 2 (← char? ':' cs)
  let (nanosecond, cs) ← fraction? cs
  if hour ≤ 24 ∧ minute ≤ 59 ∧ second ≤ 59 then some (⟨hour, minute, second, nanosecond⟩, cs)
  else none

def offset? (cs : List Char) : Option (Option Offset × List Char) :=
  match cs with
  | [] => some (none, [])
  | c :: cs =>
    if c = 'Z' ∨ c = 'z' then some (some .utc, cs)
    else if c = '+' ∨ c = '-' then do
      let (hours, cs) ← number? 2 cs
      let (minutes, cs) ← number? 2 (← char? ':' cs)
      return (some (.shifted (if c = '-' then -(hours : Int) else hours) minutes), cs)
    else none

def separatesTime (c : Char) : Bool := c == 'T' || c == 't' || c == ' '

/-- A time alone, a date alone, or both with perhaps an offset. -/
def read? (cs : List Char) : Option (DateTime × List Char) :=
  if cs[2]? = some ':' then (time? cs).map fun (t, rest) => (⟨none, some t, none⟩, rest)
  else do
    let (date, cs) ← date? cs
    match cs with
    | c :: rest =>
      if separatesTime c then do
        let (time, rest) ← time? rest
        let (offset, rest) ← offset? rest
        return (⟨some date, some time, offset⟩, rest)
      else return (⟨some date, none, none⟩, c :: rest)
    | [] => return (⟨some date, none, none⟩, [])

def parse? (cs : List Char) : Option DateTime :=
  match read? cs with
  | some (d, []) => some d
  | _ => none

/-- A number with zeros in front of it. -/
def padded (width n : Nat) : List Char :=
  let ds := Nat.toDigits 10 n
  List.replicate (width - ds.length) '0' ++ ds

def CalendarDate.text (d : CalendarDate) : List Char :=
  padded 4 d.year ++ '-' :: padded 2 d.month ++ '-' :: padded 2 d.day

/-- Zeros at the end of a fraction are left out. -/
def ClockTime.text (t : ClockTime) : List Char :=
  let clock := padded 2 t.hour ++ ':' :: padded 2 t.minute ++ ':' :: padded 2 t.second
  if t.nanosecond = 0 then clock
  else clock ++ '.' :: ((padded 9 t.nanosecond).reverse.dropWhile (· == '0')).reverse

def Offset.text : Offset → List Char
  | .utc => ['Z']
  | .shifted hours minutes =>
    (if hours < 0 then '-' else '+') :: padded 2 hours.natAbs ++ ':' :: padded 2 minutes

def text (d : DateTime) : List Char :=
  let date := (d.date.map CalendarDate.text).getD []
  let time := (d.time.map ClockTime.text).getD []
  let separator := if d.date.isSome ∧ d.time.isSome then ['T'] else []
  date ++ separator ++ time ++ (d.offset.map Offset.text).getD []

end DateTime
end RaceControl.Toml
