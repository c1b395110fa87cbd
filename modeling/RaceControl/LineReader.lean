import RaceControl.Text.Utf8

/-!
The output of a plugin, line by line. Lines end at a line feed; one carriage return in front of it
belongs to the end. Reading stops for good at a line that is not well-formed text.
-/
namespace RaceControl

structure LineReader where
  /-- The bytes of the line that has begun. -/
  begun : List UInt8
  hasStopped : Bool
  deriving DecidableEq, Repr, Inhabited

namespace LineReader

def fresh : LineReader := ⟨[], false⟩

/-- A line without the carriage return at its end. -/
def stripReturn (line : List UInt8) : List UInt8 :=
  if line.getLast? = some 13 then line.dropLast else line

/-- Takes one byte. A line that it ends is the result. -/
def push (r : LineReader) (b : UInt8) : LineReader × Option (List Char) :=
  if r.hasStopped then (r, none)
  else if b = 10 then
    match Utf8.decode? (stripReturn r.begun) with
    | some line => (fresh, some line)
    | none => (⟨[], true⟩, none)
  else ({ r with begun := r.begun ++ [b] }, none)

/-- Takes the next bytes, however they are cut. -/
def feed (r : LineReader) : List UInt8 → LineReader × List (List Char)
  | [] => (r, [])
  | b :: bs =>
    let (r, line) := r.push b
    let (r, lines) := feed r bs
    (r, line.toList ++ lines)

/-- The last line, if it has begun and has no end. -/
def finish (r : LineReader) : Option (List Char) :=
  if r.hasStopped ∨ r.begun = [] then none else Utf8.decode? r.begun

/-- A line as it is forwarded. -/
def forwarded (name : String) (line : List Char) : String := s!"[{name}] {String.ofList line}"

end LineReader
end RaceControl
