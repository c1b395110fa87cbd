import RaceControl.Failure
import RaceControl.Plugin
import RaceControl.Settings

/-!
How processes are started: the server from the settings, a plugin in the directory of its
executable.
-/
namespace RaceControl

structure ProcessSpec where
  program : Path
  arguments : List String
  workingDir : Path
  /-- Variables added to those of this program. -/
  environment : List (String × String)
  deriving DecidableEq, Repr, Inhabited

/-- The server. A relative path with a separator in it is looked up from the working directory of
the new process. -/
def Settings.server (s : Settings) : ProcessSpec :=
  ⟨s.program, s.arguments, s.installDir, s.environment⟩

namespace Plugin

/-- How a plugin is started, and whether the fallback has to stand in for its directory. -/
def spec (p : Plugin) (executable fallback : Path) : ProcessSpec × Bool :=
  let (dir, usesFallback) := workingDir executable fallback
  (⟨executable, p.arguments, dir, []⟩, usesFallback)

/-- The executable of a plugin as an absolute path. The working directory is asked for only where
the path is relative. -/
def locate (p : Plugin) (cwd : Except OsError Path) : Except ProcessError Path :=
  if p.executable.isAbsolute then .ok p.executable
  else
    match cwd with
    | .ok cwd => .ok (cwd.join p.executable)
    | .error cause => .error (.unresolved p.executable cause)

end Plugin
end RaceControl
