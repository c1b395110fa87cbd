import RaceControl.Host.Shell.Arithmetic
import RaceControl.Host.Shell.Pattern
import RaceControl.Host.Shell.Syntax

/-!
What the words of a command become: parameters are replaced, and unquoted results are cut at blanks.
-/
namespace RaceControl.Host.Shell

structure Variable where
  name : String
  value : String
  isExported : Bool
  deriving DecidableEq, Repr, Inhabited

/-- What the parameters of a shell stand for. -/
structure Scope where
  bindings : List Variable
  script : String
  arguments : List String
  status : Nat
  pid : Nat
  lastBackground : Option Nat
  deriving Repr, Inhabited

namespace Scope

def read? (s : Scope) (name : String) : Option String :=
  (s.bindings.find? (·.name == name)).map (·.value)

def assign (s : Scope) (name value : String) : Scope :=
  if s.bindings.any (·.name == name) then
    { s with bindings := s.bindings.map fun v => if v.name = name then { v with value } else v }
  else { s with bindings := s.bindings ++ [⟨name, value, false⟩] }

def exported (s : Scope) (name : String) : Scope :=
  let s := if s.bindings.any (·.name == name) then s else s.assign name ""
  { s with bindings := s.bindings.map fun v =>
      if v.name = name then { v with isExported := true } else v }

def unset (s : Scope) (name : String) : Scope :=
  { s with bindings := s.bindings.filter (·.name != name) }

def environment (s : Scope) : List (String × String) :=
  (s.bindings.filter (·.isExported)).map fun v => (v.name, v.value)

/-- The value of a parameter, if it is set. -/
def parameter? (s : Scope) (name : String) : Option String :=
  match name with
  | "0" => some s.script
  | "#" => some (toString s.arguments.length)
  | "?" => some (toString s.status)
  | "$" => some (toString s.pid)
  | "!" => s.lastBackground.map toString
  | "-" => some ""
  | "@" => if s.arguments.isEmpty then none else some (" ".intercalate s.arguments)
  | "*" => if s.arguments.isEmpty then none else some (" ".intercalate s.arguments)
  | name =>
    match name.toNat? with
    | some position => s.arguments[position - 1]?
    | none => s.read? name

end Scope

/-- Whether a text names a variable. -/
def isName (cs : List Char) : Bool :=
  match cs with
  | c :: rest => (c.isAlpha || c == '_') && rest.all fun d => d.isAlphanum || d == '_'
  | [] => false

/-- The variables that a shell takes over. An entry is cut at its first equals sign; what is then no
name is left out, and later entries win. -/
def inherited (environment : List (String × String)) : List Variable :=
  environment.foldl (fun vs (name, value) =>
    let entry := name.toList ++ '=' :: value.toList
    let key := entry.takeWhile (· != '=')
    let v : Variable := ⟨String.ofList key, String.ofList (entry.drop (key.length + 1)), true⟩
    if isName key then vs.filter (·.name != v.name) ++ [v] else vs) []

inductive Segment
  /-- Text that stays together. -/
  | solid (chars : List Char)
  /-- Text that is cut at its blanks. -/
  | soft (chars : List Char)
  | gap
  deriving Repr, Inhabited

def valueSegment (isQuoted : Bool) (value : String) : Segment :=
  if isQuoted then .solid value.toList else .soft value.toList

/-- Several arguments, each a word of its own. -/
def argumentSegments (isQuoted : Bool) (arguments : List String) : List Segment :=
  (arguments.map (valueSegment isQuoted)).intersperse .gap

def Segment.chars : Segment → List Char
  | .solid cs => cs
  | .soft cs => cs
  | .gap => [' ']

mutual

/-- The segments of one piece. None where an arithmetic expression makes no sense. -/
def segments? (s : Scope) : Piece → Option (List Segment × Scope)
  | .text chars _ => some ([.solid chars], s)
  | .parameter "@" isQuoted => some (argumentSegments isQuoted s.arguments, s)
  | .parameter "*" false => some (argumentSegments false s.arguments, s)
  | .parameter name isQuoted => some ([valueSegment isQuoted ((s.parameter? name).getD "")], s)
  | .length name => some ([.solid (toString ((s.parameter? name).getD "").length).toList], s)
  | .arithmetic expression => do
    let (segments, s) ← wordSegments? s expression
    let n ← Arithmetic.value? s.read? (segments.flatMap Segment.chars)
    return ([.soft (toString n).toList], s)
  | .trim name atEnd longest pattern isQuoted => do
    let (pattern, s) ← patternChars? s pattern
    let value := ((s.parameter? name).getD "").toList
    let rest := trimmed atEnd longest (glyphs pattern) value
    return ([valueSegment isQuoted (String.ofList rest)], s)
  | .substitution _ _ => some ([], s)
  | .output chars isQuoted => some ([valueSegment isQuoted (String.ofList chars)], s)
  | .choice name kind emptyCounts word isQuoted =>
    let value := (s.parameter? name).filter fun v => !(emptyCounts && v.isEmpty)
    match kind, value with
    | .orElse, some v => some ([valueSegment isQuoted v], s)
    | .orAssign, some v => some ([valueSegment isQuoted v], s)
    | .instead, none => some ([], s)
    | .orAssign, none => do
      let (segments, s) ← wordSegments? s word
      return (segments, s.assign name (String.ofList (segments.flatMap Segment.chars)))
    | _, _ => wordSegments? s word

def wordSegments? (s : Scope) : List Piece → Option (List Segment × Scope)
  | [] => some ([], s)
  | piece :: rest => do
    let (first, s) ← segments? s piece
    let (more, s) ← wordSegments? s rest
    return (first ++ more, s)

/-- The characters of a word that is used as a pattern. -/
def patternChars? (s : Scope) : List Piece → Option (List PatternChar × Scope)
  | [] => some ([], s)
  | piece :: rest => do
    let (segments, s) ← segments? s piece
    let first := (segments.flatMap Segment.chars).map fun c => ⟨c, piece.isQuoted⟩
    let (more, s) ← patternChars? s rest
    return (first ++ more, s)

end

/-- Fields under construction: those that are complete, and the one that has begun. -/
structure Fields where
  complete : List (List Char)
  current : Option (List Char)

namespace Fields

def close (f : Fields) : Fields :=
  match f.current with
  | some field => ⟨f.complete ++ [field], none⟩
  | none => f

def extend (f : Fields) (chars : List Char) : Fields :=
  { f with current := some (f.current.getD [] ++ chars) }

def add (f : Fields) : Segment → Fields
  | .solid chars => f.extend chars
  | .gap => f.close
  | .soft chars =>
    chars.foldl (fun f c => if c = ' ' ∨ c = '\t' ∨ c = '\n' then f.close else f.extend [c]) f

end Fields

/-- Whether a word is nothing but all the arguments in quotes. Without arguments it disappears. -/
def isAllArguments : Word → Bool
  | [.text [] true, .parameter "@" true] => true
  | _ => false

/-- The fields of a word. -/
def fields? (s : Scope) (word : Word) : Option (List String × Scope) := do
  if isAllArguments word then return (s.arguments, s)
  let (segments, s) ← wordSegments? s word
  let f := (segments.foldl Fields.add ⟨[], none⟩).close
  return (f.complete.map String.ofList, s)

def allFields? (s : Scope) : List Word → Option (List String × Scope)
  | [] => some ([], s)
  | word :: rest => do
    let (first, s) ← fields? s word
    let (more, s) ← allFields? s rest
    return (first ++ more, s)

/-- The text of a word that is not cut, as in an assignment. -/
def text? (s : Scope) (word : Word) : Option (String × Scope) := do
  let (segments, s) ← wordSegments? s word
  return (String.ofList (segments.flatMap Segment.chars), s)

end RaceControl.Host.Shell
