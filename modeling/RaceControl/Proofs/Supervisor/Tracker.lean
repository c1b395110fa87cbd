import Mathlib.Logic.Function.Basic
import RaceControl.Proofs.Supervisor.Posts
import RaceControl.Rehearsal.Scene

/-!
The tracker in a launch. One step of a launch takes it up, and this step writes the one
configuration that is due, if there is one. Only behind that is the tracker started, on this
configuration.
-/
namespace RaceControl

/-- The configuration that is due: the stored options with the ports of the server in them, if the
options can be read, the tracker is wanted and installed, and both ports are known. -/
inductive ConfigDue (collaborators : Collaborators) (options : ServerOptions)
    (env : Surroundings) : TrackerOptions → Prop
  | due {stored : TrackerOptions} {address : Address} :
    collaborators.hasTracker = true → env.trackerOptions = .ok stored →
    stored.enabled = true → env.tracker.installed = true →
    Address.parse options.udpPluginAddress = .ok address → options.udpPluginLocalPort ≠ 0 →
    ConfigDue collaborators options env
      { stored with sendPort := options.udpPluginLocalPort, receivePort := address.port }

/-- The surroundings in which the writer gives another answer to one configuration. -/
def Surroundings.answering (env : Surroundings) (config : TrackerOptions)
    (answer : Except String Unit) : Surroundings :=
  { env with writeConfig := Function.update env.writeConfig config answer }

section
variable {collaborators : Collaborators} {options : ServerOptions} {env : Surroundings}
  {stored config config' : TrackerOptions}

lemma ConfigDue.unique (due : ConfigDue collaborators options env config)
    (due' : ConfigDue collaborators options env config') : config' = config := by
  cases due with
  | due _ read _ _ parsed =>
    cases due' with
    | due _ read' _ _ parsed' =>
      rw [read] at read'
      rw [parsed] at parsed'
      cases read'
      cases parsed'
      rfl

lemma ConfigDue.answering {answer : Except String Unit}
    (due : ConfigDue collaborators options env config) :
    ConfigDue collaborators options (env.answering config' answer) config := by
  cases due with
  | due present read enabled installed parsed port =>
    exact .due present read enabled installed parsed port

end

/-- The plugins of the settings: the listed ones, and those that command lines name. -/
def Settings.Lists (settings : Settings) (program : Plugin) : Prop :=
  program ∈ settings.plugins ∨
    ∃ line ∈ settings.commands, Plugin.ofCommandLine? line = some program

namespace Rehearsal.Scene

end Rehearsal.Scene

namespace System
variable {settings : Settings} {collaborators : Collaborators} {start s t : System}
  {seen more : List Effect} {env : Surroundings} {l : Launch} {dir : Path}
  {options : ServerOptions} {strides : List Stride} {stride : Stride} {k : Nat}

/-- What comes of the tracker. Where no configuration is due nothing is written and nothing
started; where it cannot be written nothing is started; behind a configuration that has been written
comes the start of the tracker on it. -/
inductive Tracking (collaborators : Collaborators) (options : ServerOptions) (dir : Path)
    (env : Surroundings) (before : Children) : Children → List Effect → Prop
  | idle {more : List Effect} :
    (∀ config, ¬ConfigDue collaborators options env config) →
    (more = [] ∨ more = [.logged (.trackerRefused .requiresUdpConfiguration)]) →
    Tracking collaborators options dir env before before more
  | unwritten {config : TrackerOptions} {cause : String} :
    ConfigDue collaborators options env config → env.writeConfig config = .error cause →
    Tracking collaborators options dir env before before
      [.logged (.trackerRefused (.writeConfig cause))]
  | written {config : TrackerOptions} {after : Children} {more : List Effect} :
    ConfigDue collaborators options env config → env.writeConfig config = .ok () →
    Starting before env
      ⟨env.tracker.executable, ["--stracker_ini", (env.tracker.folder.join "stracker.ini").text]⟩
      dir .trackerFailed after more →
    Tracking collaborators options dir env before after (.configWritten config :: more)

/-- The answer of the writer to a configuration that is due is the first that is seen. -/
def replied (config : TrackerOptions) : Except String Unit → Effect
  | .ok () => .configWritten config
  | .error cause => .logged (.trackerRefused (.writeConfig cause))

lemma Tracking.head {config : TrackerOptions} {before after : Children}
    (tracking : Tracking collaborators options dir env before after more)
    (due : ConfigDue collaborators options env config) :
    more.head? = some (replied config (env.writeConfig config)) := by
  cases tracking with
  | idle none => exact absurd due (none _)
  | unwritten due' answer =>
    obtain rfl := due'.unique due
    rw [answer]
    rfl
  | written due' answer =>
    obtain rfl := due'.unique due
    rw [answer]
    rfl

/-- A step calls the writer for a configuration: what it does depends on the answer. -/
def Stride.Consults (stride : Stride) (config : TrackerOptions) : Prop :=
  ∃ answer, stride.before.step? (.proceed (stride.env.answering config answer)) ≠
    some (stride.after, stride.shown)

/-- Only the step that takes up the tracker looks at the writer. -/
lemma stepLaunch_answering (other : ∀ dir options, l.stage ≠ .startTracker dir options)
    (config : TrackerOptions) (answer : Except String Unit) :
    s.stepLaunch (env.answering config answer) l = s.stepLaunch env l := by
  unfold stepLaunch
  cases stage : l.stage with
  | startTracker dir options => exact absurd stage (other dir options)
  | startPlugins dir plugins => cases plugins <;> rfl
  | startCommands dir lines => cases lines <;> rfl
  | _ => rfl

/-- The plugin that a stage of a launch takes up: the next one of the list, or the one that the next
command line names. -/
inductive Takes (program : Plugin) : LaunchStage → Prop
  | plugin {dir : Path} {rest : List Plugin} : Takes program (.startPlugins dir (program :: rest))
  | command {dir : Path} {line : String} {rest : List String} :
    Plugin.ofCommandLine? line = some program → Takes program (.startCommands dir (line :: rest))

/-- What is seen of a stage without the tracker: it writes no configuration, and a process that it
starts is the one of the plugin that it takes up. -/
def Elsewhere (env : Surroundings) (stage : LaunchStage) : Effect → Prop
  | .configWritten _ => False
  | .childStarted _ spec => ∃ program, Takes program stage ∧
      program.locate env.workingDir = .ok spec.program ∧ spec.arguments = program.arguments
  | _ => True

lemma elsewhere_failLaunch (s : System) (env : Surroundings) (stage : LaunchStage)
    (cause : SupervisorError) :
    ∀ effect ∈ (s.failLaunch l cause).2, Elsewhere env stage effect := by
  simp only [failLaunch, andThen_eq, setState_eq, note, answer]
  split <;> simp [Elsewhere]

lemma elsewhere_closeRelay (s : System) (env : Surroundings) (stage : LaunchStage) (number : Nat) :
    ∀ effect ∈ (s.closeRelay number).2, Elsewhere env stage effect := by
  unfold closeRelay
  split <;> simp [Elsewhere]

lemma Starting.elsewhere {before after : Children} {stage : LaunchStage} {program : Plugin}
    {failure : ProcessError → LogEntry} (takes : Takes program stage)
    (starting : Starting before env program dir failure after more) :
    ∀ effect ∈ more, Elsewhere env stage effect := by
  cases starting with
  | started warnings _ located =>
    simp only [List.forall_mem_append, List.forall_mem_map, List.forall_mem_singleton]
    exact ⟨fun _ _ => trivial, program, takes, located, rfl⟩
  | failed warnings =>
    simp only [List.forall_mem_append, List.forall_mem_map, List.forall_mem_singleton]
    exact ⟨fun _ _ => trivial, trivial⟩

lemma elsewhere_stepLaunch (other : ∀ dir options, l.stage ≠ .startTracker dir options) :
    ∀ effect ∈ (s.stepLaunch env l).2, Elsewhere env l.stage effect := by
  unfold stepLaunch
  cases stage : l.stage with
  | announce =>
    simp only [andThen_eq, setState_eq]
    split <;> simp [Elsewhere]
  | readDirectory =>
    cases env.workingDir with
    | error cause => exact elsewhere_failLaunch s _ _ _
    | ok dir => simp
  | readOptions dir =>
    cases env.serverOptions with
    | error cause => exact elsewhere_failLaunch s _ _ _
    | ok options => simp
  | openRelay dir options =>
    dsimp only
    split
    · exact elsewhere_failLaunch _ _ _ _
    · simp [Elsewhere]
  | startServer dir options relay =>
    dsimp only
    cases env.start s.settings.server with
    | error cause =>
      simp only [andThen_eq, List.forall_mem_append]
      exact ⟨elsewhere_closeRelay _ _ _ _, elsewhere_failLaunch _ _ _ _⟩
    | ok pid => simp [Elsewhere]
  | adopt dir options relay session => simp [Elsewhere]
  | startWrapper dir options => simp
  | startTracker dir options => exact absurd stage (other dir options)
  | startPlugins dir plugins =>
    cases plugins with
    | nil =>
      dsimp only
      split <;> simp [Elsewhere]
    | cons plugin rest =>
      simp only [andThen_eq, List.append_nil]
      exact (startChild_starting s env plugin dir _).elsewhere .plugin
  | startCommands dir lines =>
    cases lines with
    | nil => simp
    | cons line rest =>
      simp only [andThen_eq, List.append_nil, startCommand]
      cases named : Plugin.ofCommandLine? line with
      | none => simp
      | some program =>
        exact (startChild_starting s env program dir _).elsewhere (.command named)
  | finish =>
    simp only [andThen_eq, setState_eq, answer]
    split <;> simp [Elsewhere]

/-! ## The steps of a launch -/

lemma Pending.tracker {stage : LaunchStage} {rest : List Post}
    (pending : Pending settings dir options stage (.tracker :: rest)) :
    stage = .startTracker dir options := by
  generalize posts : Post.tracker :: rest = all at pending
  cases pending with
  | all => rfl
  | plugins plugins => cases plugins <;> cases posts
  | commands lines => cases lines <;> cases posts

lemma Pending.lists {stage : LaunchStage} {rest : List Post} {program : Plugin}
    (pending : Pending settings dir options stage rest) (takes : Takes program stage)
    (known : ∀ post ∈ rest, post ∈ settings.posts) : settings.Lists program := by
  cases takes with
  | plugin =>
    cases pending with
    | plugins =>
      have member := known (.plugin program) (by simp)
      exact .inl (by simpa [Settings.posts] using member)
  | @command _ line _ named =>
    cases pending with
    | commands =>
      have member := known (.command line) (by simp)
      exact .inr ⟨line, by simpa [Settings.posts] using member, named⟩

/-- Where a launch stands at one of its steps, as far as the tracker and the plugins go. -/
lemma Attempt.stages (attempt : Attempt l start s strides)
    (run : Run (fresh settings collaborators) start seen) {now : Launch}
    (taken : strides[k]? = some stride) (phase : stride.before.phase = .launching now) :
    (∀ dir options, now.stage = .startTracker dir options → k = 7) ∧
      ∀ program, Takes program now.stage → settings.Lists program := by
  have bound : k < strides.length := (List.getElem?_eq_some_iff.mp taken).1
  have many : (strides.take k).length = k := List.length_take_of_le (Nat.le_of_lt bound)
  obtain ⟨attempt, -, -⟩ := attempt.before taken
  obtain ⟨-, staffing⟩ := attempt.staffing run
  have stage_of {stage : LaunchStage}
      (here : stride.before.phase = .launching { l with stage }) : now.stage = stage := by
    rw [phase] at here
    cases here
    rfl
  cases staffing with
  | onWay onWay =>
    obtain ⟨stage, here, unmanned⟩ := onWay.unmanned_phase
    rw [stage_of here]
    refine ⟨?_, fun program takes => ?_⟩
    · rintro dir options rfl
      contradiction
    · cases takes <;> contradiction
  | failed waiting =>
    rw [waiting] at phase
    contradiction
  | manned station =>
    cases station with
    | adopting _ here | wrapper _ _ here | ready _ _ here =>
      rw [stage_of here]
      exact ⟨nofun, nofun⟩
    | launched _ _ waiting =>
      rw [waiting] at phase
      contradiction
    | @posting j stage rest length few left pending _ here =>
      rw [stage_of here]
      refine ⟨fun dir options same => ?_, fun program takes => ?_⟩
      · -- the tracker is the first post, so none has been taken up before it
        rw [same] at pending
        have left := congrArg List.length left
        cases pending with
        | all =>
          have some : 0 < settings.posts.length := Nat.succ_pos _
          rw [List.length_drop] at left
          omega
      · refine pending.lists takes fun post member => ?_
        rw [← left] at member
        exact List.mem_of_mem_drop member

/-- A step that does not take up the tracker. -/
lemma Attempt.elsewhere (attempt : Attempt l start s strides)
    (run : Run (fresh settings collaborators) start seen) (taken : strides[k]? = some stride)
    (other : k ≠ 7) :
    (∀ config, ¬stride.Consults config) ∧ (∀ config, .configWritten config ∉ stride.shown) ∧
      ∀ child spec, .childStarted child spec ∈ stride.shown → ∃ program, settings.Lists program ∧
        program.locate stride.env.workingDir = .ok spec.program ∧
        spec.arguments = program.arguments := by
  obtain ⟨-, ⟨now, phase⟩, step⟩ := attempt.before taken
  obtain ⟨seventh, lists⟩ := attempt.stages run taken phase
  have stage : ∀ dir options, now.stage ≠ .startTracker dir options :=
    fun dir options same => other (seventh dir options same)
  have done : stride.before.stepLaunch stride.env now = (stride.after, stride.shown) := by
    simpa [step?, proceed, phase] using step
  have shown : ∀ effect ∈ (stride.before.stepLaunch stride.env now).2,
      Elsewhere stride.env now.stage effect := elsewhere_stepLaunch stage
  rw [done] at shown
  refine ⟨?_, fun config written => shown _ written, fun child spec started => ?_⟩
  · rintro config ⟨answer, differs⟩
    refine differs ?_
    rw [← done, ← stepLaunch_answering stage config answer]
    simp [step?, proceed, phase]
  · obtain ⟨program, takes, known⟩ := shown _ started
    exact ⟨program, lists program takes, known⟩

end System
end RaceControl
