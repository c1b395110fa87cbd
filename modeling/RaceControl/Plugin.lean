import RaceControl.Path

/-!
Programs started beside the server: an executable with its arguments, the line that displays it,
and the older form of a command as one line of text.
-/
namespace RaceControl

structure Plugin where
  executable : Path
  arguments : List String
  deriving DecidableEq, Repr, Inhabited

namespace Plugin

/-- The executable, then each argument behind one space. -/
def display (p : Plugin) : String :=
  p.arguments.foldl (fun line argument => line ++ " " ++ argument) p.executable.text

/-- The plugin that a command line names. The line is cut at every single space, so that runs of
spaces give empty arguments. A line whose first piece is empty names none. -/
def ofCommandLine? (line : String) : Option Plugin :=
  match line.toList.splitOn ' ' with
  | [] => none
  | executable :: arguments =>
    if executable.isEmpty then none else some ⟨⟨executable⟩, arguments.map String.ofList⟩

/-- The directory that a plugin runs in: the one that holds its executable, or `fallback` where
the path names no directory. The flag tells whether the fallback was needed. -/
def workingDir (executable fallback : Path) : Path × Bool :=
  match executable.parent? with
  | some dir => if dir.isEmpty then (fallback, true) else (dir, false)
  | none => (fallback, true)

/-- The name under which the output of a plugin is logged. -/
def logName (executable : Path) : String := executable.fileName?.getD executable.text

end Plugin
end RaceControl
