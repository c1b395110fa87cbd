/-!
Shell scripts: words with the expansions in them, and commands.
-/
namespace RaceControl.Host.Shell

/-- What a parameter expansion does where the parameter is not set, or is. -/
inductive Choice
  | orElse
  | orAssign
  | instead
  deriving DecidableEq, Repr, Inhabited

inductive Piece
  | text (chars : List Char) (isQuoted : Bool)
  | parameter (name : String) (isQuoted : Bool)
  /-- An expansion with a word; `emptyCounts` tells that an empty value counts as none. -/
  | choice (name : String) (kind : Choice) (emptyCounts : Bool) (word : List Piece)
    (isQuoted : Bool)
  | length (name : String)
  /-- The value of a parameter without the part that a pattern describes. -/
  | trim (name : String) (atEnd longest : Bool) (pattern : List Piece) (isQuoted : Bool)
  /-- What a script writes. It is replaced by the output before the word is expanded. -/
  | substitution (script : String) (isQuoted : Bool)
  | output (chars : List Char) (isQuoted : Bool)
  | arithmetic (expression : List Piece)
  deriving Repr, Inhabited

def Piece.isQuoted : Piece → Bool
  | .text _ isQuoted => isQuoted
  | .parameter _ isQuoted => isQuoted
  | .choice _ _ _ _ isQuoted => isQuoted
  | .trim _ _ _ _ isQuoted => isQuoted
  | .substitution _ isQuoted => isQuoted
  | .output _ isQuoted => isQuoted
  | .length _ => true
  | .arithmetic _ => true

abbrev Word := List Piece

inductive Target
  | copy (descriptor : Nat)
  | closed
  | file (name : Word)
  deriving Repr, Inhabited

structure Redirect where
  descriptor : Nat
  isInput : Bool
  target : Target
  deriving Repr, Inhabited

inductive Command
  | nothing
  | simple (assignments : List (String × Word)) (words : List Word) (redirects : List Redirect)
  | sequence (first second : Command)
  | both (first second : Command)
  | either (first second : Command)
  | negated (inner : Command)
  | pipeline (stages : List Command)
  | background (inner : Command)
  | repeated (isUntil : Bool) (condition body : Command)
  | branch (condition yes no : Command)
  | each (name : String) (words : Option (List Word)) (body : Command)
  | select (subject : Word) (arms : List (List Word × Command))
  | subshell (inner : Command) (redirects : List Redirect)
  | grouped (inner : Command) (redirects : List Redirect)
  deriving Repr, Inhabited

/-- The first script whose output a word asks for. -/
def script? (w : Word) : Option String :=
  w.findSome? fun
    | .substitution script _ => some script
    | _ => none

/-- A word with the output of its first script put in. -/
def filled (output : List Char) : Word → Word
  | [] => []
  | .substitution _ isQuoted :: rest => .output output isQuoted :: rest
  | piece :: rest => piece :: filled output rest

/-- Words with the output of the first script among them put in. -/
def filledFirst (output : List Char) : List Word → List Word
  | [] => []
  | w :: ws => if (script? w).isSome then filled output w :: ws else w :: filledFirst output ws

def asksForOutput (w : Word) : Bool :=
  w.any fun
    | .output .. => true
    | _ => false

namespace Command

/-- The words that a command expands before anything else of it happens. -/
def words : Command → List Word
  | .simple assignments words _ => words ++ assignments.map (·.2)
  | .each _ words _ => words.getD []
  | .select subject _ => [subject]
  | _ => []

/-- The command with other words in place of those. -/
def withWords (ws : List Word) : Command → Command
  | .simple assignments words redirects =>
    .simple ((assignments.map (·.1)).zip (ws.drop words.length)) (ws.take words.length) redirects
  | .each name (some _) body => .each name (some ws) body
  | .select subject arms => .select (ws.headD subject) arms
  | c => c

end Command
end RaceControl.Host.Shell
