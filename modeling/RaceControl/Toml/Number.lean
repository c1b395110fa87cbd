import RaceControl.Data.Datum
import RaceControl.Data.Decimal
import RaceControl.Toml.Token

/-!
Numbers and dates. Both start with a word; what follows it decides how much of the text belongs to
the value. A date is kept as it is written.
-/
namespace RaceControl.Toml
namespace Number

/-- Which spellings of a whole number are accepted. -/
structure Spelling where
  base : Nat
  signed : Bool
  leadingZeros : Bool

/-- Where a reader of digits stands: whether it has seen a character, whether the first was a zero,
and whether the last was an underscore. -/
structure Progress where
  begun : Bool
  zero : Bool
  underscore : Bool

def isDigitOf (base : Nat) (c : Char) : Bool :=
  match Token.hexValue? c with
  | some d => d < base
  | none => false

/-- Digits, with single underscores between them, and the text behind them. -/
def digits? (s : Spelling) : Progress → List Char → Option (List Char × List Char)
  | p, [] => if p.begun ∧ ¬p.underscore then some ([], []) else none
  | p, c :: cs =>
    if c = '0' ∧ ¬p.begun then
      (digits? s ⟨true, true, false⟩ cs).map fun (ds, rest) => (c :: ds, rest)
    else if isDigitOf s.base c then
      if p.begun ∧ p.zero ∧ ¬s.leadingZeros then none
      else (digits? s ⟨true, p.zero, false⟩ cs).map fun (ds, rest) => (c :: ds, rest)
    else if c = '_' ∧ ¬p.begun then none
    else if c = '_' ∧ ¬p.underscore then digits? s ⟨true, p.zero, true⟩ cs
    else if p.begun ∧ ¬p.underscore then some ([], c :: cs)
    else none

def natural (base : Nat) (ds : List Char) : Nat :=
  ds.foldl (fun n c => n * base + (Token.hexValue? c).getD 0) 0

/-- A sign, if one may stand there and does: whether it is a minus. -/
def sign (s : Spelling) : List Char → Bool × List Char
  | '-' :: cs => if s.signed then (true, cs) else (false, '-' :: cs)
  | cs => (false, cs)

/-- A sign and digits in front of a text, and the rest of it. -/
def whole? (s : Spelling) (cs : List Char) : Option (Bool × List Char × List Char) := do
  let (negative, cs) := sign s cs
  let (ds, rest) ← digits? s ⟨false, false, false⟩ cs
  return (negative, ds, rest)

def signed (negative : Bool) (n : Nat) : Int := if negative then -(n : Int) else n

/-- A whole number that fills a word and fits 64 bits. -/
def integer? (base : Nat) (cs : List Char) : Option Datum := do
  let (negative, ds, rest) ← whole? ⟨base, base = 10, base ≠ 10⟩ cs
  let n := signed negative (natural base ds)
  if rest = [] ∧ -0x8000000000000000 ≤ n ∧ n < 0x8000000000000000 then some (.int n) else none

def isMark (c : Char) : Bool := c == 'e' || c == 'E'

/-- The exponent behind the mantissa of a float, which may go on in the next tokens where its sign
is a plus. -/
def exponent? (tail : List Char) (tokens : List Token) : Option (Int × List Token) :=
  match tail with
  | [] => some (0, tokens)
  | [mark] =>
    if isMark mark then
      let tokens := match tokens with
        | .plus :: tokens => tokens
        | tokens => tokens
      match tokens with
      | .word cs :: tokens => do
        let (_, ds, rest) ← whole? ⟨10, false, true⟩ cs
        if rest = [] then some (natural 10 ds, tokens) else none
      | _ => none
    else none
  | mark :: cs => do
    let (negative, ds, rest) ← whole? ⟨10, true, true⟩ cs
    if isMark mark ∧ rest = [] then some (signed negative (natural 10 ds), tokens) else none

/-- A finite float: a whole part, perhaps a fraction, perhaps an exponent. -/
def float? (cs : List Char) (fraction : Option (List Char)) (tokens : List Token) :
    Option (Datum × List Token) := do
  let (negative, ds, tail) ← whole? ⟨10, true, false⟩ cs
  let (fractionDigits, tail) ←
    match fraction with
    | none => some ([], tail)
    | some cs =>
      if tail = [] then (whole? ⟨10, false, true⟩ cs).map fun (_, ds, rest) => (ds, rest) else none
  let (exponent, tokens) ← exponent? tail tokens
  let x := Decimal.toFloat (natural 10 (ds ++ fractionDigits)) (exponent - fractionDigits.length)
  if x.isInf then none else return (.float (if negative then -x else x), tokens)

/-- A number that starts with a word. -/
def ofWord? (cs : List Char) (tokens : List Token) : Option (Datum × List Token) :=
  match cs with
  | '0' :: 'x' :: ds => (integer? 16 ds).map (·, tokens)
  | '0' :: 'o' :: ds => (integer? 8 ds).map (·, tokens)
  | '0' :: 'b' :: ds => (integer? 2 ds).map (·, tokens)
  | cs =>
    if cs.any isMark then float? cs none tokens
    else
      match tokens with
      | .period :: .word fraction :: tokens => float? cs (some fraction) tokens
      | .period :: _ => none
      | tokens =>
        match String.ofList cs with
        | "inf" => some (.float (1.0 / 0.0), tokens)
        | "-inf" => some (.float (-1.0 / 0.0), tokens)
        | "nan" | "-nan" => some (.float (0.0 / 0.0), tokens)
        | _ => (integer? 10 cs).map (·, tokens)

end Number

namespace Date

/-- The name of the single member by which a date is told apart from other records. -/
def memberName : String := "$__toml_private_datetime"

def datum (text : List Char) : Datum := .record [(memberName, .text (String.ofList text))]

/-- The hour behind a date, where one space separates the two. -/
def hour : List Token → List Token × List Token
  | .blanks [' '] :: .word cs :: tokens => ([.blanks [' '], .word cs], tokens)
  | tokens => ([], tokens)

/-- A separator with the word behind it, if the separator is there. -/
def part? (separator : Token) : List Token → Option (List Token × List Token)
  | t :: tokens =>
    if t = separator then
      match tokens with
      | .word cs :: tokens => some ([t, .word cs], tokens)
      | _ => none
    else some ([], t :: tokens)
  | [] => some ([], [])

/-- Minutes and seconds, then a fraction and an offset if there are any. -/
def clock? (tokens : List Token) : Option (List Token × List Token) :=
  match tokens with
  | .colon :: .word minutes :: .colon :: .word seconds :: tokens => do
    let (fraction, tokens) ← part? .period tokens
    let (offset, tokens) ← part? .plus tokens
    let (offsetMinutes, tokens) ← part? .colon tokens
    return ([.colon, .word minutes, .colon, .word seconds] ++ fraction ++ offset ++ offsetMinutes,
      tokens)
  | .colon :: _ => none
  | tokens => some ([], tokens)

/-- A date or a time that starts with a word. -/
def ofWord? (cs : List Char) (tokens : List Token) : Option (Datum × List Token) := do
  let (hour, tokens) := hour tokens
  let (clock, tokens) ← clock? tokens
  return (datum (cs ++ (hour ++ clock).flatMap Token.dateText), tokens)

/-- A time whose hour is the word before a colon. -/
def ofHour? (cs : List Char) (tokens : List Token) : Option (Datum × List Token) := do
  let (late, rest) := hour tokens
  let (clock, tokens) ← clock? (.colon :: rest)
  return (datum (cs ++ ':' :: (late ++ clock.drop 1).flatMap Token.dateText), tokens)

end Date

/-- Whether two characters follow each other somewhere in a text. -/
def hasPair (a b : Char) : List Char → Bool
  | c :: d :: cs => (c == a && d == b) || hasPair a b (d :: cs)
  | _ => false

/-- Whether a word alone shows that it starts a date: it holds a `T`, or a hyphen that is neither
in front nor the sign of an exponent. -/
def startsDate (cs : List Char) : Bool :=
  cs.contains 'T' || cs.contains 't' ||
    ((cs.drop 1).contains '-' && !hasPair 'e' '-' cs && !hasPair 'E' '-' cs)

/-- A number or a date that starts with a word. -/
def numberOrDate? (cs : List Char) (tokens : List Token) : Option (Datum × List Token) :=
  if startsDate cs then Date.ofWord? cs tokens
  else
    match tokens with
    | .colon :: tokens => Date.ofHour? cs tokens
    | tokens => Number.ofWord? cs tokens

end RaceControl.Toml
