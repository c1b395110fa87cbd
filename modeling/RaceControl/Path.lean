/-!
File paths as texts. Joining and taking the parent work on the text: nothing is normalised, but
repeated separators and `.` pieces do not count as components when a path is taken apart.
-/
namespace RaceControl

structure Path where
  chars : List Char
  deriving DecidableEq, Repr, Inhabited

namespace Path

def ofString (text : String) : Path := ⟨text.toList⟩

def text (p : Path) : String := String.ofList p.chars

instance : Coe String Path := ⟨ofString⟩

def isEmpty (p : Path) : Bool := p.chars.isEmpty

def isAbsolute (p : Path) : Bool := p.chars.head? == some '/'

/-- The path `q` taken from `p`. An absolute `q` replaces `p`; an empty one leaves a separator at
the end of `p`. -/
def join (p q : Path) : Path :=
  if q.isAbsolute then q
  else if p.chars = [] ∨ p.chars.getLast? = some '/' then ⟨p.chars ++ q.chars⟩
  else ⟨p.chars ++ '/' :: q.chars⟩

/-- The path `p` as seen from the directory `cwd`. -/
def absolutize (cwd p : Path) : Path := if p.isAbsolute then p else cwd.join p

/-- Whether a piece between separators names no component. A leading `.` counts as one only where
no root precedes it. -/
def isBlank (rooted : Bool) (piece : List Char) : Bool :=
  piece.isEmpty || (rooted && piece == ['.'])

/-- The pieces up to the last one that names a component. -/
def trimEnd (rooted : Bool) : List (List Char) → List (List Char)
  | [] => []
  | piece :: rest =>
    match trimEnd true rest with
    | [] => if isBlank rooted piece then [] else [piece]
    | kept => piece :: kept

/-- The root, if there is one, and the pieces behind it. -/
def split (p : Path) : List Char × List (List Char) :=
  match p.chars with
  | '/' :: body => (['/'], trimEnd true (body.splitOn '/'))
  | body => ([], trimEnd false (body.splitOn '/'))

/-- The path without its last component. A path without components besides the root has none. -/
def parent? (p : Path) : Option Path :=
  let (root, pieces) := p.split
  if pieces.isEmpty then none
  else some ⟨root ++ ['/'].intercalate (trimEnd (!root.isEmpty) pieces.dropLast)⟩

/-- The last component, unless it is `.` or `..`. -/
def fileName? (p : Path) : Option String :=
  match p.split.2.getLast? with
  | none => none
  | some piece => if piece = ['.'] ∨ piece = ['.', '.'] then none else some (String.ofList piece)

end Path
end RaceControl
