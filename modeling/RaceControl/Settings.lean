import RaceControl.Data.OptionRecords
import RaceControl.OsError
import RaceControl.Text.Utf8
import RaceControl.Toml.Tables

/-!
The settings of a supervisor, fixed while it lives, and the options of the sessions it launches.
Both are read from one document; neither looks at the members that belong to the other.
-/
namespace RaceControl
open Datum

structure Settings where
  /-- Where the server is installed, and its working directory. -/
  installDir : Path
  executable : Path
  arguments : List String
  /-- Variables added to the server's environment, ordered by name. -/
  environment : List (String × String)
  plugins : List Plugin
  /-- Command lines in the older form, started behind the plugins. -/
  commands : List String
  /-- Milliseconds between the request to end and the kill. -/
  stopGrace : Nat
  /-- Milliseconds between the request to end and giving up. -/
  stopTimeout : Nat
  logSize : Nat
  deriving DecidableEq, Repr, Inhabited

namespace Settings

def standard : Settings where
  installDir := "."
  executable := "acServer"
  arguments := []
  environment := []
  plugins := []
  commands := []
  stopGrace := 10000
  stopTimeout := 20000
  logSize := 1000000

/-- The server's program: an absolute path stands for itself, a relative one starts at the
installation. -/
def program (s : Settings) : Path :=
  if s.executable.isAbsolute then s.executable else s.installDir.join s.executable

def memberNames : List String :=
  ["server_install_path", "executable_path", "executable_args", "environment", "plugins",
   "run_on_start", "stop_grace_ms", "stop_timeout_ms", "log_buffer_size"]

/-- Puts a variable among others that are ordered by name; a later value replaces an earlier one. -/
def setVariable (name value : String) : List (String × String) → List (String × String)
  | [] => [(name, value)]
  | (n, v) :: rest =>
    if name < n then (name, value) :: (n, v) :: rest
    else if name = n then (name, value) :: rest
    else (n, v) :: setVariable name value rest

def environment? : Datum → Option (List (String × String))
  | .record members => do
    let pairs ← members.mapM fun (name, d) => d.text?.map (name, ·)
    return pairs.foldl (fun env (name, value) => setVariable name value env) []
  | _ => none

def path? (d : Datum) : Option Path := d.text?.map Path.ofString

/-- Numbers of the document have sixty-four bits, one of them for the sign. -/
def count? (d : Datum) : Option Nat := d.below? (Nat.pow 2 63)

def ofDatum? (d : Datum) : Option Settings := do
  match ← d.align? memberNames with
  | [installDir, executable, arguments, environment, plugins, commands, grace, timeout, size] =>
    return {
      installDir := ← member? path? standard.installDir installDir
      executable := ← member? path? standard.executable executable
      arguments := ← member? (listOf? text?) standard.arguments arguments
      environment := ← member? environment? standard.environment environment
      plugins := ← member? (listOf? Plugin.ofDatum?) standard.plugins plugins
      commands := ← member? (listOf? text?) standard.commands commands
      stopGrace := ← member? count? standard.stopGrace grace
      stopTimeout := ← member? count? standard.stopTimeout timeout
      logSize := ← member? count? standard.logSize size }
  | _ => none

def ofToml? (text : String) : Option Settings := (Toml.parse? text).bind ofDatum?

end Settings

/-- What is found where the settings should be. -/
inductive SettingsFile
  | missing
  | unreadable (cause : OsError)
  | bytes (content : List UInt8)
  deriving DecidableEq, Repr, Inhabited

namespace SettingsFile

/-- The text of the file; a missing file has none. -/
def text? : SettingsFile → Except OsError (Option String)
  | .missing => .ok none
  | .unreadable cause => .error cause
  | .bytes content =>
    match Utf8.decode? content with
    | some chars => .ok (some (String.ofList chars))
    | none => .error .invalidUtf8

end SettingsFile

inductive SettingsError
  | unreadable (cause : OsError)
  | invalid
  deriving DecidableEq, Repr, Inhabited

/-- The settings that a file holds. Where there is no file, the standard ones hold. -/
def SettingsFile.settings (file : SettingsFile) : Except SettingsError Settings :=
  match file.text? with
  | .error cause => .error (.unreadable cause)
  | .ok none => .ok .standard
  | .ok (some document) =>
    match Settings.ofToml? document with
    | some settings => .ok settings
    | none => .error .invalid

end RaceControl
