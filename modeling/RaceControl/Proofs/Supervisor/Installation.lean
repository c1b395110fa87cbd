import RaceControl.Proofs.Path
import RaceControl.Proofs.Supervisor.Lifecycle

/-!
Which file runs as the server. A process enters its working directory before its program is looked
up, so that the way to a relative installation is taken twice if the executable is relative too.
-/
namespace RaceControl

/-- What a process executes that is started in the directory `cwd`. It enters its own directory
first, and a program with a separator in its path is looked up from there; any other is searched
for. -/
def ProcessSpec.image? (spec : ProcessSpec) (cwd : Path) : Option Path :=
  if '/' ∈ spec.program.chars then
    some (.absolutize (.absolutize cwd spec.workingDir) spec.program)
  else none

namespace Settings
variable {s : Settings} {cwd file : Path}

/-- The file that the settings mean: the executable by itself, or under the installation. -/
def configuredFile (s : Settings) (cwd : Path) : Path :=
  .absolutize (.absolutize cwd s.installDir) s.executable

/-- The file that is looked up as the server's program. -/
def launchedFile (s : Settings) (cwd : Path) : Path :=
  .absolutize (.absolutize cwd s.installDir) s.program

/-- What can be told of the file that runs as the server. -/
structure Installed (s : Settings) (cwd file : Path) : Prop where
  isAbsolute : file.isAbsolute
  ofAbsolute : s.executable.isAbsolute → file = s.executable
  ofInstallation : ¬s.executable.isAbsolute → s.installDir.isAbsolute →
    file = s.installDir.join s.executable
  /-- The installation is entered, and then looked for once more. -/
  ofRelative : ¬s.executable.isAbsolute → ¬s.installDir.isAbsolute →
    file.names = (cwd.names ++ s.installDir.names) ++ (s.installDir.names ++ s.executable.names)
  /-- The file is the configured one unless a relative installation leads elsewhere. -/
  agrees : file.Agrees (s.configuredFile cwd) ↔
    s.executable.isAbsolute ∨ s.installDir.isAbsolute ∨ s.installDir.names = []

lemma separator_mem_program (directory : s.installDir.isEmpty = false) :
    '/' ∈ s.program.chars := by
  unfold program
  split_ifs with absolute
  · exact List.mem_of_mem_head? (Path.isAbsolute_iff.mp absolute)
  · exact Path.separator_mem_join directory s.executable

lemma image?_server (directory : s.installDir.isEmpty = false) :
    s.server.image? cwd = some (s.launchedFile cwd) :=
  if_pos (separator_mem_program directory)

lemma installed_of_absolute (absolute : s.executable.isAbsolute) :
    s.Installed cwd (s.launchedFile cwd) := by
  have launched : s.launchedFile cwd = s.executable := by
    rw [launchedFile, program, if_pos absolute, Path.absolutize_of_isAbsolute _ absolute]
  have configured : s.configuredFile cwd = s.executable := Path.absolutize_of_isAbsolute _ absolute
  rw [launched]
  refine ⟨absolute, fun _ => rfl, fun relative => absurd absolute relative,
    fun relative => absurd absolute relative, iff_of_true ?_ (.inl absolute)⟩
  rw [configured]
  exact .refl _

lemma installed_of_installation (relative : ¬s.executable.isAbsolute)
    (absolute : s.installDir.isAbsolute) : s.Installed cwd (s.launchedFile cwd) := by
  have whole : (s.installDir.join s.executable).isAbsolute :=
    (Path.isAbsolute_join_iff (Path.isEmpty_of_isAbsolute absolute)).mpr (.inl absolute)
  have launched : s.launchedFile cwd = s.installDir.join s.executable := by
    rw [launchedFile, program, if_neg relative, Path.absolutize_of_isAbsolute _ whole]
  have configured : s.configuredFile cwd = s.installDir.join s.executable := by
    rw [configuredFile, Path.absolutize_of_isAbsolute _ absolute,
      Path.absolutize_of_relative _ relative]
  rw [launched]
  refine ⟨whole, fun absolute => absurd absolute relative, fun _ _ => rfl,
    fun _ relative => absurd absolute relative, iff_of_true ?_ (.inr (.inl absolute))⟩
  rw [configured]
  exact .refl _

lemma installed_of_relative (inside : cwd.isAbsolute) (directory : s.installDir.isEmpty = false)
    (relative : ¬s.executable.isAbsolute) (nested : ¬s.installDir.isAbsolute) :
    s.Installed cwd (s.launchedFile cwd) := by
  have program : ¬s.program.isAbsolute := by
    rw [Settings.program, if_neg relative, Path.isAbsolute_join_iff directory]
    exact not_or.mpr ⟨nested, relative⟩
  have entered : (Path.absolutize cwd s.installDir).isAbsolute := Path.isAbsolute_absolutize inside _
  have place : (Path.absolutize cwd s.installDir).names = cwd.names ++ s.installDir.names := by
    rw [Path.absolutize_of_relative _ nested, Path.names_join _ nested]
  have launched : (s.launchedFile cwd).names =
      (cwd.names ++ s.installDir.names) ++ (s.installDir.names ++ s.executable.names) := by
    rw [launchedFile, Path.absolutize_of_relative _ program, Path.names_join _ program, place,
      Settings.program, if_neg relative, Path.names_join _ relative]
  have configured : (s.configuredFile cwd).names =
      (cwd.names ++ s.installDir.names) ++ s.executable.names := by
    rw [configuredFile, Path.absolutize_of_relative _ relative, Path.names_join _ relative, place]
  have rooted : (s.launchedFile cwd).isAbsolute = (s.configuredFile cwd).isAbsolute :=
    (Path.isAbsolute_absolutize entered _).trans (Path.isAbsolute_absolutize entered _).symm
  refine ⟨Path.isAbsolute_absolutize entered _, fun absolute => absurd absolute relative,
    fun _ absolute => absurd absolute nested, fun _ _ => launched, ?_⟩
  rw [Path.Agrees, launched, configured, List.append_cancel_left_eq, List.append_left_eq_self]
  simp [rooted, relative, nested]

end Settings

namespace System
variable {settings : Settings} {collaborators : Collaborators} {s : System} {seen : List Effect}
  {generation pid : Nat} {spec : ProcessSpec}

/-- Every server of a run is started as it is configured. -/
lemma Run.spec_eq (run : Run (fresh settings collaborators) s seen)
    (started : .serverStarted generation pid spec ∈ seen) : spec = settings.server := by
  have isStart {more : List Effect} (member : .serverStarted generation pid spec ∈ more) :
      generation ∈ generations more :=
    List.mem_filterMap.mpr ⟨_, member, rfl⟩
  have kept := run.keeps (coherent_fresh settings collaborators)
    (P := fun s seen => s.settings = settings ∧
      (.serverStarted generation pid spec ∈ seen → spec = settings.server))
    ⟨rfl, fun member => absurd member List.not_mem_nil⟩
    (fun {s t seen more} _ ⟨same, earlier⟩ turn => by
      refine ⟨turn.settings.trans same, fun member => ?_⟩
      rcases List.mem_append.mp member with before | now
      · exact earlier before
      · rcases turn.started with ⟨none, -⟩ | ⟨⟨_, rfl⟩, -⟩
        · exact absurd (none ▸ isStart now) List.not_mem_nil
        · simp only [List.mem_singleton, Effect.serverStarted.injEq] at now
          rw [now.2.2, same])
    (fun _ ⟨same, earlier⟩ beside => by
      refine ⟨beside.settings.trans same, fun member => ?_⟩
      rcases List.mem_append.mp member with before | now
      · exact earlier before
      · exact absurd (generations_of_minor beside.minor ▸ isStart now) List.not_mem_nil)
    (fun _ ⟨same, earlier⟩ _ => by
      refine ⟨same, fun member => ?_⟩
      rcases List.mem_append.mp member with before | now
      · exact earlier before
      · exact absurd (generations_of_minor minor_destroy ▸ isStart now) List.not_mem_nil)
  exact kept.2.2 started

/-- The file that runs as the server in any session of a run: where the executable and the
installation are both relative, it is looked for in the installation's place below itself. -/
theorem Run.installed {cwd : Path} (run : Run (fresh settings collaborators) s seen)
    (started : .serverStarted generation pid spec ∈ seen) (inside : cwd.isAbsolute)
    (directory : settings.installDir.isEmpty = false) :
    ∃ file, spec.image? cwd = some file ∧ settings.Installed cwd file := by
  rw [run.spec_eq started]
  refine ⟨settings.launchedFile cwd, Settings.image?_server directory, ?_⟩
  by_cases absolute : settings.executable.isAbsolute
  · exact Settings.installed_of_absolute absolute
  · by_cases nested : settings.installDir.isAbsolute
    · exact Settings.installed_of_installation absolute nested
    · exact Settings.installed_of_relative inside directory absolute nested

/-- A relative installation. -/
def portable : Settings := { Settings.standard with installDir := "game" }

lemma portable_launch :
    ∃ s seen, Run (fresh portable ⟨false, false⟩) s seen ∧
      .serverStarted 1 7 portable.server ∈ seen := by
  have steps : ∃ out ∈ (fresh portable ⟨false, false⟩).steps?
      (launchInputs ⟨1, .start ⟨"race"⟩ (.direct ":9000" 9001)⟩),
      .serverStarted 1 7 portable.server ∈ out.2 := by
    refine ⟨_, rfl, ?_⟩
    exact List.mem_of_getElem? (i := 4) rfl
  obtain ⟨⟨s, seen⟩, taken, started⟩ := steps
  exact ⟨s, seen, Run.none.steps taken, started⟩

theorem installed_portable :
    ∃ s seen, Run (fresh portable ⟨false, false⟩) s seen ∧
      .serverStarted 1 7 portable.server ∈ seen ∧
      (∃ file, portable.server.image? "/srv" = some file ∧ portable.Installed "/srv" file) ∧
      portable.launchedFile "/srv" = "/srv/game/game/acServer" ∧
      portable.configuredFile "/srv" = "/srv/game/acServer" := by
  obtain ⟨s, seen, run, started⟩ := portable_launch
  exact ⟨s, seen, run, started, run.installed started (by decide) (by decide), by decide,
    by decide⟩

/-- So the server that runs is not always the one that is configured. -/
theorem not_forall_configured :
    ¬∀ settings collaborators s seen generation pid spec (cwd file : Path),
      Run (fresh settings collaborators) s seen → .serverStarted generation pid spec ∈ seen →
      cwd.isAbsolute → settings.installDir.isEmpty = false →
      settings.executable.isEmpty = false → spec.image? cwd = some file →
      file.Agrees (settings.configuredFile cwd) := by
  intro all
  obtain ⟨s, seen, run, started⟩ := portable_launch
  have agrees := all _ _ s seen _ _ _ "/srv" "/srv/game/game/acServer" run started (by decide)
    (by decide) (by decide) (by decide)
  revert agrees
  decide

end System
end RaceControl
