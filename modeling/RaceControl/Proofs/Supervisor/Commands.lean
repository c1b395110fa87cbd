import RaceControl.Proofs.CommandLine
import RaceControl.Proofs.Supervisor.Posts

/-!
Commands of the older form in a launch. For a line that names a plugin a process is started, or an
error is logged in which the line can be read. A line that is empty or begins with a space names
none and is passed over without a trace.
-/
namespace RaceControl

/-- An error in which a text can be read. -/
def LogEntry.Reports (entry : LogEntry) (text : String) : Prop :=
  entry.level = .error ∧ text.toList <:+: entry.message.toList

lemma LogEntry.reports_commandFailed (line : String) (cause : ProcessError) :
    (commandFailed line cause).Reports line := by
  have whole : (commandFailed line cause).message =
      "Could not run extra command: " ++ line ++ (": " ++ cause.message) := by
    rw [← String.append_assoc]
    rfl
  refine ⟨rfl, ?_⟩
  rw [whole, String.toList_append, String.toList_append]
  exact List.infix_append _ _ _

lemma Settings.posts_command {settings : Settings} {i : Nat} {line : String}
    (listed : settings.commands[i]? = some line) :
    settings.posts[2 + settings.plugins.length + i]? = some (.command line) := by
  have number : 2 + settings.plugins.length + i = settings.plugins.length + (i + 1) + 1 := by omega
  rw [posts, number, List.getElem?_cons_succ,
    List.getElem?_append_right (by rw [List.length_map]; omega), List.length_map,
    Nat.add_sub_cancel_left, List.getElem?_cons_succ, List.getElem?_map, listed]
  rfl

namespace System
variable {settings : Settings} {collaborators : Collaborators} {start s t : System}
  {seen more : List Effect} {env : Surroundings} {l : Launch} {x : Session} {dir : Path}
  {options : ServerOptions} {strides : List Stride} {stride : Stride} {line : String} {i : Nat}

/-- How a step answers for a command line: it starts the process that the line names, which is kept
track of from then on, or it logs an error in which the line can be read. -/
inductive Stride.Answers (stride : Stride) (line : String) (tracked : List Child) : Prop
  | started {plugin : Plugin} {child : Child} {spec : ProcessSpec} :
    Plugin.ofCommandLine? line = some plugin →
    plugin.locate stride.env.workingDir = .ok spec.program → spec.arguments = plugin.arguments →
    .childStarted child spec ∈ stride.shown → child ∈ tracked → Answers stride line tracked
  | reported {entry : LogEntry} : entry.Reports line → .logged entry ∈ stride.shown →
    Answers stride line tracked

lemma Pending.command {stage : LaunchStage} {rest : List Post}
    (pending : Pending settings dir options stage (.command line :: rest)) :
    ∃ lines, stage = .startCommands dir (line :: lines) := by
  generalize posts : Post.command line :: rest = all at pending
  cases pending with
  | all => cases posts
  | plugins plugins => cases plugins <;> cases posts
  | commands lines =>
    cases lines with
    | nil => cases posts
    | cons first lines =>
      cases posts
      exact ⟨lines, rfl⟩

/-- The step that takes up a command line answers for it, unless nothing is in front of the first
space of the line. -/
lemma Attempt.answers_iff (attempt : Attempt l start s strides)
    (run : Run (fresh settings collaborators) start seen)
    (listed : settings.commands[i]? = some line)
    (taken : strides[9 + settings.plugins.length + i]? = some stride) :
    (stride.Answers line s.shared.children.tracked ↔ line ≠ "" ∧ line.toList.head? ≠ some ' ') ∧
      (line = "" ∨ line.toList.head? = some ' ' →
        stride.shown = [] ∧ stride.after.shared.children = stride.before.shared.children) := by
  have number : 9 + settings.plugins.length + i = 7 + (2 + settings.plugins.length + i) := by omega
  have kept := attempt.tracked_prefix run (List.mem_of_getElem? taken)
  rw [number] at taken
  obtain ⟨-, -, x, dir, options, stage, rest, -, pending, -, done⟩ :=
    attempt.atPost run (Settings.posts_command listed) taken
  obtain ⟨lines, rfl⟩ := pending.command
  simp only [stepLaunch, andThen_eq, List.append_nil] at done
  obtain ⟨after, shown⟩ := Prod.mk.inj done
  rw [← not_or, ← Plugin.ofCommandLine?_eq_none_iff]
  unfold startCommand at after shown
  cases named : Plugin.ofCommandLine? line with
  | none =>
    simp only [named] at after shown
    refine ⟨iff_of_false ?_ (not_not_intro rfl), fun _ => ⟨shown.symm, by rw [← after]; rfl⟩⟩
    rintro (⟨named', _, _, _, _⟩ | ⟨_, logged⟩)
    · simp [named] at named'
    · simp [← shown] at logged
  | some plugin =>
    simp only [named] at after shown
    refine ⟨iff_of_true ?_ (Option.some_ne_none plugin), fun none => by contradiction⟩
    have starting := startChild_starting stride.before stride.env plugin dir (.commandFailed line)
    rw [shown] at starting
    rcases starting.started_or_failed with
      ⟨child, spec, program, arguments, started, tracked⟩ | ⟨cause, logged⟩
    · refine .started named program arguments started (kept.subset ?_)
      rw [← after]
      exact tracked
    · exact .reported (LogEntry.reports_commandFailed line cause) logged

/-- A launch that is over has come to every command line, and each line has a step of its own. That
step answers for the line if it names a plugin, that is, if there is something in front of its first
space. For any other line the step does nothing, and nobody is told. -/
theorem Attempt.answers_commands (attempt : Attempt l start s strides)
    (run : Run (fresh settings collaborators) start seen)
    (listed : settings.commands[i]? = some line) :
    (∀ generation pid spec, .serverStarted generation pid spec ∈ strides.flatMap (·.shown) →
      s.phase = .waiting → ∃ stride, strides[9 + settings.plugins.length + i]? = some stride) ∧
    ∀ stride, strides[9 + settings.plugins.length + i]? = some stride →
      (stride.Answers line s.shared.children.tracked ↔
        line ≠ "" ∧ line.toList.head? ≠ some ' ') ∧
      (line = "" ∨ line.toList.head? = some ' ' →
        stride.shown = [] ∧ stride.after.shared.children = stride.before.shared.children) := by
  refine ⟨?_, fun stride taken => attempt.answers_iff run listed taken⟩
  intro generation pid spec served waiting
  obtain ⟨length, -, -⟩ := (attempt.succeeds run served).2.2 waiting
  have few := (List.getElem?_eq_some_iff.mp (Settings.posts_command listed)).1
  exact ⟨_, List.getElem?_eq_getElem (by omega)⟩

/-- Three commands of the older form. The first line begins with a space. -/
def indented : Settings :=
  { accompanied with commands := [" /opt/radio loud", "/opt/timing fast", "/opt/radio loud"] }

lemma exists_indented :
    ∃ l start seen s strides, Run (fresh indented ⟨false, false⟩) start seen ∧
      Attempt l start s strides ∧
      .serverStarted 1 7 indented.server ∈ strides.flatMap (·.shown) ∧ s.phase = .waiting := by
  have steps : ∃ out ∈ (fresh indented ⟨false, false⟩).steps?
        [.submit ⟨1, .start ⟨"race"⟩ (.direct ":9000" 9001)⟩, .poll 0 (.ok ())],
      out.1.phase = .launching ⟨1, ⟨"race"⟩, .direct ":9000" 9001, .announce⟩ ∧
      ∃ last ∈ out.1.steps? ((List.replicate 16 meagre).map .proceed),
        .serverStarted 1 7 indented.server ∈ last.2 ∧ last.1.phase = .waiting := by
    refine ⟨_, rfl, rfl, _, rfl, ?_, rfl⟩
    exact List.mem_of_getElem? (i := 3) rfl
  obtain ⟨⟨start, seen⟩, asked, phase, ⟨s, shown⟩, launch, served, waiting⟩ := steps
  have run := Run.none.steps asked
  have begun : Attempt _ start start [] := .begin phase rfl
  obtain ⟨strides, attempt, rfl⟩ := begun.proceeds run launch
  exact ⟨_, start, _, s, strides, run, attempt, served, waiting⟩

theorem answers_indented :
    ∃ l start seen s strides, Run (fresh indented ⟨false, false⟩) start seen ∧
      Attempt l start s strides ∧ indented.commands[2]? = some "/opt/radio loud" ∧
      ∃ stride, strides[13]? = some stride ∧
        stride.Answers "/opt/radio loud" s.shared.children.tracked := by
  obtain ⟨l, start, seen, s, strides, run, attempt, served, waiting⟩ := exists_indented
  have listed : indented.commands[2]? = some "/opt/radio loud" := rfl
  obtain ⟨come, answered⟩ := attempt.answers_commands run listed
  obtain ⟨stride, taken⟩ := come 1 7 indented.server served waiting
  have names : "/opt/radio loud" ≠ "" ∧ "/opt/radio loud".toList.head? ≠ some ' ' := by decide
  exact ⟨l, start, seen, s, strides, run, attempt, listed, stride, taken,
    (answered stride taken).1.mpr names⟩

/-- So a line in which there is more than spaces is not always answered for. -/
theorem not_forall_answered :
    ¬∀ settings collaborators l start seen s strides i line stride,
      Run (fresh settings collaborators) start seen → Attempt l start s strides →
      settings.commands[i]? = some line →
      strides[9 + settings.plugins.length + i]? = some stride → (∃ c ∈ line.toList, c ≠ ' ') →
      stride.Answers line s.shared.children.tracked := by
  intro all
  obtain ⟨l, start, seen, s, strides, run, attempt, served, waiting⟩ := exists_indented
  have listed : indented.commands[0]? = some " /opt/radio loud" := rfl
  have reached : 9 + indented.plugins.length + 0 < strides.length := by
    rw [((attempt.succeeds run served).2.2 waiting).1]
    decide
  have taken := List.getElem?_eq_getElem reached
  have answered := all _ _ _ _ _ _ _ _ _ _ run attempt listed taken ⟨'r', by decide, by decide⟩
  have silent := (attempt.answers_iff run listed taken).1.mp answered
  exact silent.2 rfl

end System
end RaceControl
