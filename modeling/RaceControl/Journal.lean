import RaceControl.Failure
import RaceControl.Signal
import RaceControl.State
import RaceControl.Tracker
import RaceControl.Waiter

/-!
The warnings and errors that the supervisor logs, as causes with their wording.
-/
namespace RaceControl

inductive LogEntry
  | serverEnded (result : WaitResult)
  | startFailed (cause : SupervisorError)
  | stopFailed (cause : SupervisorError)
  /-- The final stop of a supervisor that is no longer used has failed. -/
  | shutdownFailed (cause : SupervisorError)
  | killFailed (cause : ProcessError)
  | endRequestFailed (reason : String)
  | illegalTransition (cause : TransitionError)
  | wrapperFailed (cause : String)
  | trackerRefused (cause : TrackerError)
  | trackerFailed (cause : ProcessError)
  | commandFailed (command : String) (cause : ProcessError)
  | commandsDeprecated
  | directoryUnknown (fallback : Path)
  | childNotKilled (name : String) (pid : Nat) (cause : OsError)
  | callbackPanicked (reason : String)
  deriving DecidableEq, Repr, Inhabited

namespace LogEntry

inductive Level
  | warning
  | error
  deriving DecidableEq, Repr

def Level.name : Level → String
  | .warning => "WARN"
  | .error => "ERROR"

def level : LogEntry → Level
  | .serverEnded _ | .shutdownFailed _ | .endRequestFailed _ | .commandsDeprecated
  | .directoryUnknown _ => .warning
  | _ => .error

def ended (how : String) : String :=
  s!"Server process ended with {how}. If everything seems fine, you can safely ignore this error."

def message : LogEntry → String
  | .serverEnded (.ended status) => ended status.text
  | .serverEnded (.failed cause) => ended s!"error: {cause.message}"
  | .startFailed cause => s!"Could not start server process: {cause.message}"
  | .stopFailed cause => cause.message
  | .shutdownFailed cause => s!"Server process did not stop cleanly: {cause.message}"
  | .killFailed cause => s!"Could not forcibly kill server process: {cause.message}"
  | .endRequestFailed reason => reason
  | .illegalTransition cause => cause.message
  | .wrapperFailed cause => s!"Could not start Content Manager wrapper server: {cause}"
  | .trackerRefused cause => s!"{cause.message}. Please check your server configuration"
  | .trackerFailed cause => s!"Could not start sTracker: {cause.message}"
  | .commandFailed command cause => s!"Could not run extra command: {command}: {cause.message}"
  | .commandsDeprecated => "Use of run_on_start is deprecated. Please use 'plugins' instead"
  | .directoryUnknown fallback =>
    s!"Could not determine plugin directory. Setting working dir to: {fallback.text}"
  | .childNotKilled name pid cause => s!"Can't kill process '{name}' (pid {pid}): {cause.message}"
  | .callbackPanicked reason => s!"UDP callback panicked: {reason}"

/-- The line of the log: level, then message. -/
def text (e : LogEntry) : String := s!"{e.level.name} {e.message}"

end LogEntry
end RaceControl
