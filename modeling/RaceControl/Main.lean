import RaceControl.Rehearsal.ProgramTrial

/-!
The command line: reads the settings file that the environment names, runs the program on the small
machine and prints what it logs.
-/
namespace RaceControl

/-- The environment variable that names the settings file, and the file where it is not set. -/
def settingsVariable : String := "RACE_SUPERVISOR_CONFIG"

def defaultSettingsPath : String := "config/supervisor.toml"

def readSettings (path : String) : IO SettingsFile := do
  match ← (IO.FS.readBinFile path).toBaseIO with
  | .ok content => return .bytes content.toList
  | .error (.noFileOrDirectory ..) => return .missing
  | .error (.permissionDenied ..) => return .unreadable .permissionDenied
  | .error (.inappropriateType ..) => return .unreadable .isDirectory
  | .error e => return .unreadable (.other (toString e))

/-- What the program says last where it has failed. -/
def ProgramFailure.message (path : String) : ProgramFailure → String
  | .settings (.unreadable cause) => cause.message
  | .settings .invalid => "Invalid supervisor config"
  | .tables => s!"Invalid launch tables in {path}"
  | .supervisor cause => cause.message

end RaceControl

open RaceControl

def main : IO UInt32 := do
  let path := (← IO.getEnv settingsVariable).getD defaultSettingsPath
  let file ← readSettings path
  let network : Host.Network := ⟨[], none, 32768⟩
  let outcome := Rehearsal.Outcome.ofFile file ["srv"] network none
  for line in outcome.log do IO.println line
  for notice in outcome.notices do IO.println notice.text
  if let some failure := outcome.failure then IO.eprintln s!"Error: {failure.message path}"
  return UInt32.ofNat outcome.exitCode
