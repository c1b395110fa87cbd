import RaceControl.Json.Printer
import RaceControl.Settings
import RaceControl.Toml.DateTime

/-!
The tables that the program reads beside the settings: options of the server and of the tracker, and
the session to run. The session is described by compact text with its members in order.
-/
namespace RaceControl

structure LaunchTables where
  server : ServerOptions
  tracker : Option TrackerOptions
  session : Datum
  deriving Inhabited

namespace LaunchTables

/-- The tables where nothing is written. -/
def empty : LaunchTables := ⟨.unset, none, .record []⟩

/-- Puts a member among others that are ordered by name; none if the name is taken. -/
def insert? (name : String) (d : Datum) : List (String × Datum) → Option (List (String × Datum))
  | [] => some [(name, d)]
  | (n, e) :: rest =>
    if name < n then some ((name, d) :: (n, e) :: rest)
    else if name = n then none
    else (insert? name d rest).map ((n, e) :: ·)

/-- A record that stands for a date. -/
def date? (d : Datum) : Option Datum := do
  let date ← Toml.DateTime.parse? (← d.text?).toList
  return .record [(Toml.Date.memberName, .text (String.ofList date.text))]

mutual

/-- The session as it is described: members in order, dates in their one form. None where a name is
repeated or a date is none. -/
def ordered? : Datum → Option Datum
  | .list items => (orderedItems? items).map .list
  | .record [] => some (.record [])
  | .record ((name, d) :: rest) =>
    if name = Toml.Date.memberName then date? d
    else do
      let d ← ordered? d
      return .record (← orderedMembers? rest [(name, d)])
  | d => some d

def orderedItems? : List Datum → Option (List Datum)
  | [] => some []
  | d :: ds => do return (← ordered? d) :: (← orderedItems? ds)

def orderedMembers? : List (String × Datum) → List (String × Datum) → Option (List (String × Datum))
  | [], done => some done
  | (name, d) :: rest, done => do
    let d ← ordered? d
    orderedMembers? rest (← insert? name d done)

end

def memberNames : List String := ["server_options", "stracker", "session"]

def ofDatum? (d : Datum) : Option LaunchTables := do
  match ← d.align? memberNames with
  | [server, tracker, session] =>
    return {
      server := ← Datum.member? ServerOptions.ofDatum? empty.server server
      tracker :=
        ← Datum.member? (fun d => (TrackerOptions.ofDatum? d).map some) empty.tracker tracker
      session := ← Datum.member? ordered? empty.session session }
  | _ => none

def ofToml? (text : String) : Option LaunchTables := (Toml.parse? text).bind ofDatum?

/-- The tables of a file. One that cannot be read has none. -/
def ofFile? (file : SettingsFile) : Option LaunchTables :=
  match file.text? with
  | .ok (some text) => ofToml? text
  | _ => some empty

/-- The event that the session is. -/
def description (t : LaunchTables) : String := Json.text t.session

end LaunchTables
end RaceControl
