import RaceControl.Children
import RaceControl.Proofs.Path

/-!
Where plugins are found and where they run. The executable of a plugin is an absolute path, and it
runs in the directory that holds it. A path that names nothing but the root is held by none, and
there the fallback stands in.
-/
namespace RaceControl
variable {cwd fallback file dir : Path} {lost : Bool} {p : Plugin}

namespace Path

/-- An absolute path means the same wherever it is looked at. -/
lemma absolutize_absolutize (inside : cwd.isAbsolute) (elsewhere p : Path) :
    absolutize elsewhere (absolutize cwd p) = absolutize cwd p :=
  absolutize_of_isAbsolute elsewhere (isAbsolute_absolutize inside p)

end Path

namespace Plugin

lemma locate_ok (p : Plugin) (cwd : Path) :
    p.locate (.ok cwd) = .ok (.absolutize cwd p.executable) := by
  unfold locate Path.absolutize
  split_ifs <;> rfl

/-- Where the file `file` of a plugin is and the directory `dir` that it runs in, with the warnings
at its start. -/
structure Stationed (p : Plugin) (cwd fallback file dir : Path) (warnings : List LogEntry) :
    Prop where
  isAbsolute : file.isAbsolute
  ofAbsolute : p.executable.isAbsolute → file = p.executable
  ofRelative : ¬p.executable.isAbsolute →
    file = cwd.join p.executable ∧ file.names = cwd.names ++ p.executable.names
  fixed : ∀ elsewhere, Path.absolutize elsewhere file = file
  entered : dir.isAbsolute ∧ dir.isEmpty = false
  held : file.names ≠ [] → file.parent? = some dir ∧ dir.Holds file ∧ warnings = []
  unheld : file.names = [] →
    file.parent? = none ∧ dir = fallback ∧ warnings = [.directoryUnknown fallback]
  warned : ∀ entry ∈ warnings, entry.level = .warning

/-- The directory that a file runs in, and whether the fallback stands in for it. -/
inductive Lodges (file fallback : Path) : Path → Bool → Prop
  | held {dir : Path} : file.names ≠ [] → file.parent? = some dir → dir.Holds file →
    Lodges file fallback dir false
  | unheld : file.names = [] → file.parent? = none → Lodges file fallback fallback true

lemma lodges_workingDir (absolute : file.isAbsolute) (fallback : Path) :
    Lodges file fallback (workingDir file fallback).1 (workingDir file fallback).2 := by
  rcases Path.parent?_of_isAbsolute absolute with ⟨none, parent⟩ | ⟨some, dir, parent, holds⟩
  · rw [workingDir, parent]
    exact .unheld none parent
  · -- The directory of an absolute path is never empty, so that it is entered as it is.
    have place : workingDir file fallback = (dir, false) := by
      simp [workingDir, parent, Path.isEmpty_of_isAbsolute holds.isAbsolute]
    rw [place]
    exact .held some parent holds

/-- The warnings at the start of a plugin. -/
def warningsAt (fallback : Path) (lost : Bool) : List LogEntry :=
  if lost then [.directoryUnknown fallback] else []

lemma Lodges.stationed (inside : cwd.isAbsolute) (safe : fallback.isAbsolute)
    (lodges : Lodges (.absolutize cwd p.executable) fallback dir lost) :
    p.Stationed cwd fallback (.absolutize cwd p.executable) dir (warningsAt fallback lost) where
  isAbsolute := Path.isAbsolute_absolutize inside p.executable
  ofAbsolute := Path.absolutize_of_isAbsolute cwd
  ofRelative relative := by
    rw [Path.absolutize_of_relative cwd relative]
    exact ⟨rfl, Path.names_join cwd relative⟩
  fixed elsewhere := Path.absolutize_absolutize inside elsewhere p.executable
  entered := by
    have absolute : dir.isAbsolute := by
      cases lodges with
      | held _ _ holds => exact holds.isAbsolute
      | unheld => exact safe
    exact ⟨absolute, Path.isEmpty_of_isAbsolute absolute⟩
  held some := by
    cases lodges with
    | held _ parent holds => exact ⟨parent, holds, rfl⟩
    | unheld none => exact absurd none some
  unheld none := by
    cases lodges with
    | held some => exact absurd none some
    | unheld _ parent => exact ⟨parent, rfl, rfl⟩
  warned entry given := by
    cases lost with
    | false => exact nomatch given
    | true =>
      obtain rfl := List.mem_singleton.mp given
      rfl

end Plugin

namespace Children
open Plugin

/-- A plugin is started by its absolute path in the directory that holds it, whatever comes of the
start. -/
theorem start_stationed (inside : cwd.isAbsolute) (safe : fallback.isAbsolute) (c : Children)
    (spawn : ProcessSpec → Except OsError Nat) (p : Plugin) :
    ∃ file dir, file = .absolutize cwd p.executable ∧
      p.Stationed cwd fallback file dir (c.start (.ok cwd) spawn p fallback).1.warnings ∧
      (c.start (.ok cwd) spawn p fallback).1.result =
        match spawn ⟨file, p.arguments, dir, []⟩ with
        | .error cause => .error (.spawn file cause)
        | .ok pid =>
          .ok (⟨c.nextSerial, logName file, pid⟩, ⟨file, p.arguments, dir, []⟩) := by
  have lodges :=
    lodges_workingDir (Path.isAbsolute_absolutize inside p.executable) fallback
  have stationed := lodges.stationed inside safe
  generalize found : workingDir (.absolutize cwd p.executable) fallback = place at stationed
  refine ⟨_, place.1, rfl, ?_⟩
  simp only [start, locate_ok, spec, found]
  cases spawn ⟨.absolutize cwd p.executable, p.arguments, place.1, []⟩ <;> exact ⟨stationed, rfl⟩

/-- The separators and the `.` pieces of a path stand for no directories, and a path of nothing else
is held by none. -/
theorem untidy_stationed :
    let run := none.start (.ok "/srv") (fun _ => .ok 7) ⟨"tools//./run/", ["-v"]⟩ "/"
    let root := none.start (.ok "/srv") (fun _ => .ok 7) ⟨"//.", []⟩ "/"
    run.1.result = .ok (⟨0, "run", 7⟩, ⟨"/srv/tools//./run/", ["-v"], "/srv/tools", []⟩) ∧
      root.1.result = .ok (⟨0, "//.", 7⟩, ⟨"//.", [], "/", []⟩) ∧
      (∃ file dir, file = .absolutize "/srv" "tools//./run/" ∧
        (⟨"tools//./run/", ["-v"]⟩ : Plugin).Stationed "/srv" "/" file dir run.1.warnings ∧
        run.1.result = .ok (⟨0, logName file, 7⟩, ⟨file, ["-v"], dir, []⟩)) ∧
      ∃ file dir, file = .absolutize "/srv" "//." ∧
        (⟨"//.", []⟩ : Plugin).Stationed "/srv" "/" file dir root.1.warnings ∧
        root.1.result = .ok (⟨0, logName file, 7⟩, ⟨file, [], dir, []⟩) :=
  ⟨rfl, rfl, start_stationed rfl rfl none (fun _ => .ok 7) ⟨"tools//./run/", ["-v"]⟩,
    start_stationed rfl rfl none (fun _ => .ok 7) ⟨"//.", []⟩⟩

end Children
end RaceControl
