import RaceControl.Proofs.Supervisor.Children
import RaceControl.Proofs.Supervisor.FailedLaunch
import RaceControl.Proofs.Supervisor.Tasks

/-!
What is started beside a server. Once the server of a launch runs, the launch succeeds, and every
start beside the server is tried: the tracker, the plugins, the commands of the older form. What
comes of one of them depends on the surroundings in which it is tried and on nothing else.
-/
namespace RaceControl

/-- A process that has been started beside the server. -/
structure Hire where
  name : String
  pid : Nat
  spec : ProcessSpec

/-- What comes of one start: there was nothing to start, or it failed, or a process runs. -/
inductive Upshot
  | skipped
  | failed (entry : LogEntry)
  | hired (hire : Hire)

namespace Upshot

def hire? : Upshot → Option Hire
  | .hired hire => some hire
  | _ => none

def failure? : Upshot → Option LogEntry
  | .failed entry => some entry
  | _ => none

end Upshot

def Effect.hire? : Effect → Option Hire
  | .childStarted child spec => some ⟨child.name, child.pid, spec⟩
  | _ => none

def Effect.error? : Effect → Option LogEntry
  | .logged entry => if entry.level = .error then some entry else none
  | _ => none

/-- The processes that have been started beside servers, with the way they were started. -/
def hires (seen : List Effect) : List Hire := seen.filterMap Effect.hire?

/-- What has been logged as an error. -/
def errors (seen : List Effect) : List LogEntry := seen.filterMap Effect.error?

/-- What comes of the start of a process whose failure is logged as `failure`. -/
def Plugin.upshot (plugin : Plugin) (env : Surroundings) (fallback : Path)
    (failure : ProcessError → LogEntry) : Upshot :=
  match plugin.locate env.workingDir with
  | .error e => .failed (failure e)
  | .ok executable =>
    match env.start (plugin.spec executable fallback).1 with
    | .error cause => .failed (failure (.spawn executable cause))
    | .ok pid => .hired ⟨logName executable, pid, (plugin.spec executable fallback).1⟩

/-- What a launch does for the processes beside the server, step by step. The notice says that the
commands are of an older form; nothing is started there. -/
inductive Post
  | tracker
  | plugin (plugin : Plugin)
  | notice
  | command (line : String)

/-- In the order in which a launch comes to them. -/
def Settings.posts (settings : Settings) : List Post :=
  .tracker :: (settings.plugins.map .plugin ++ .notice :: settings.commands.map .command)

/-- What comes of a post for a session with these options, in the surroundings in which the launch
comes to it. -/
def Post.upshot (collaborators : Collaborators) (options : ServerOptions) (dir : Path)
    (env : Surroundings) : Post → Upshot
  | .tracker =>
    match collaborators.hasTracker, env.trackerOptions with
    | true, .ok stored =>
      if stored.enabled ∧ env.tracker.installed then
        match env.tracker.prepare options stored env.writeConfig with
        | .error e => .failed (.trackerRefused e)
        | .ok (program, _) => program.upshot env dir .trackerFailed
      else .skipped
    | _, _ => .skipped
  | .plugin program => program.upshot env dir (.commandFailed program.display)
  | .notice => .skipped
  | .command line =>
    match Plugin.ofCommandLine? line with
    | some program => program.upshot env dir (.commandFailed line)
    | none => .skipped

/-- A process starts: its executable is found, and the system starts it. -/
def Plugin.Starts (plugin : Plugin) (env : Surroundings) (fallback : Path) (hire : Hire) : Prop :=
  ∃ executable, plugin.locate env.workingDir = .ok executable ∧
    hire.name = logName executable ∧ hire.spec = (plugin.spec executable fallback).1 ∧
      env.start hire.spec = .ok hire.pid

/-- When a post is filled, and with which process. -/
inductive Post.Fills (collaborators : Collaborators) (options : ServerOptions) (dir : Path)
    (env : Surroundings) (hire : Hire) : Post → Prop
  | tracker {stored config : TrackerOptions} {command : Plugin} :
    collaborators.hasTracker = true → env.trackerOptions = .ok stored →
    stored.enabled = true → env.tracker.installed = true →
    env.tracker.prepare options stored env.writeConfig = .ok (command, config) →
    command.Starts env dir hire → Fills collaborators options dir env hire .tracker
  | plugin {plugin : Plugin} : plugin.Starts env dir hire →
    Fills collaborators options dir env hire (.plugin plugin)
  | command {line : String} {plugin : Plugin} : Plugin.ofCommandLine? line = some plugin →
    plugin.Starts env dir hire → Fills collaborators options dir env hire (.command line)

section
variable {collaborators : Collaborators} {options : ServerOptions} {dir : Path}
  {env : Surroundings} {hire : Hire}

lemma Plugin.upshot_eq_hired_iff (plugin : Plugin) (failure : ProcessError → LogEntry) :
    plugin.upshot env dir failure = .hired hire ↔ plugin.Starts env dir hire := by
  unfold upshot Starts
  cases plugin.locate env.workingDir with
  | error e => simp
  | ok executable =>
    dsimp only
    constructor
    · intro hired
      cases started : env.start (plugin.spec executable dir).1 with
      | error cause => simp [started] at hired
      | ok pid =>
        simp only [started, Upshot.hired.injEq] at hired
        subst hired
        exact ⟨executable, rfl, rfl, rfl, started⟩
    · rintro ⟨_, located, name, spec, started⟩
      cases located
      rw [← spec, started]
      simp [← name]

lemma Post.upshot_eq_hired_iff {post : Post} :
    post.upshot collaborators options dir env = .hired hire ↔
      post.Fills collaborators options dir env hire := by
  constructor
  · intro hired
    cases post with
    | tracker =>
      simp only [Post.upshot] at hired
      split at hired
      case h_1 stored present read =>
        split at hired
        case isTrue wanted =>
          split at hired
          case h_1 => contradiction
          case h_2 program config prepared =>
            exact .tracker present read wanted.1 wanted.2 prepared
              ((program.upshot_eq_hired_iff _).mp hired)
        case isFalse => contradiction
      case h_2 => contradiction
    | plugin program => exact .plugin ((program.upshot_eq_hired_iff _).mp hired)
    | notice => simp [Post.upshot] at hired
    | command line =>
      simp only [Post.upshot] at hired
      split at hired
      case h_1 program named => exact .command named ((program.upshot_eq_hired_iff _).mp hired)
      case h_2 => contradiction
  · intro fills
    cases fills with
    | tracker present read enabled installed prepared starts =>
      simp only [Post.upshot, present, read, enabled, installed, and_self, if_true, prepared]
      exact (Plugin.upshot_eq_hired_iff _ _).mpr starts
    | plugin starts => exact (Plugin.upshot_eq_hired_iff _ _).mpr starts
    | command named starts =>
      simp only [Post.upshot, named]
      exact (Plugin.upshot_eq_hired_iff _ _).mpr starts

end

def Child.label (child : Child) : String × Nat := (child.name, child.pid)

def Hire.label (hire : Hire) : String × Nat := (hire.name, hire.pid)

lemma hires_append (seen more : List Effect) : hires (seen ++ more) = hires seen ++ hires more :=
  List.filterMap_append

lemma errors_append (seen more : List Effect) :
    errors (seen ++ more) = errors seen ++ errors more :=
  List.filterMap_append

namespace System
variable {settings : Settings} {collaborators : Collaborators} {start s t u : System}
  {seen heard more : List Effect} {env : Surroundings} {l : Launch} {x : Session} {dir : Path}
  {options : ServerOptions} {strides : List Stride}

/-- What a step adds to the processes beside the server, and what is seen of that. -/
structure Engages (added : List Upshot) (before after : Children) (more : List Effect) : Prop where
  tracked : after.tracked.map Child.label =
    before.tracked.map Child.label ++ (added.filterMap Upshot.hire?).map Hire.label
  hires : hires more = added.filterMap Upshot.hire?
  errors : errors more = added.filterMap Upshot.failure?

section
variable {before after : Children} {added : List Upshot}

lemma Engages.nobody (same : after = before)
    (quiet : ∀ effect ∈ more, effect.hire? = none ∧ effect.error? = none) :
    Engages [] before after more where
  tracked := by simp [same]
  hires := List.filterMap_eq_nil_iff.mpr fun effect shown => (quiet effect shown).1
  errors := List.filterMap_eq_nil_iff.mpr fun effect shown => (quiet effect shown).2

lemma Engages.skip (engages : Engages [] before after more) :
    Engages [.skipped] before after more :=
  ⟨engages.tracked, engages.hires, engages.errors⟩

lemma Engages.prepend {earlier : List Effect}
    (quiet : ∀ effect ∈ earlier, effect.hire? = none ∧ effect.error? = none)
    (engages : Engages added before after more) : Engages added before after (earlier ++ more) where
  tracked := engages.tracked
  hires := by
    have none : RaceControl.hires earlier = [] :=
      List.filterMap_eq_nil_iff.mpr fun effect shown => (quiet effect shown).1
    rw [hires_append, none, engages.hires, List.nil_append]
  errors := by
    have none : RaceControl.errors earlier = [] :=
      List.filterMap_eq_nil_iff.mpr fun effect shown => (quiet effect shown).2
    rw [errors_append, none, engages.errors, List.nil_append]

lemma Engages.fail {entry : LogEntry} (serious : entry.level = .error) :
    Engages [.failed entry] before before [.logged entry] where
  tracked := (List.append_nil _).symm
  hires := rfl
  errors := by
    have told : (Effect.logged entry).error? = some entry := if_pos serious
    simp [RaceControl.errors, told, Upshot.failure?]

lemma Engages.hire (name : String) (pid : Nat) (spec : ProcessSpec) :
    Engages [.hired ⟨name, pid, spec⟩] before
      ⟨before.tracked ++ [⟨before.nextSerial, name, pid⟩], before.nextSerial + 1⟩
      [.childStarted ⟨before.nextSerial, name, pid⟩ spec] where
  tracked := List.map_append
  hires := rfl
  errors := rfl

end

/-- A directory that is not known is warned of, and that is no error. -/
lemma engages_startChild (plugin : Plugin) {failure : ProcessError → LogEntry}
    (serious : ∀ e, (failure e).level = .error) :
    Engages [plugin.upshot env dir failure] s.shared.children
      (s.startChild env plugin dir failure).1.shared.children
      (s.startChild env plugin dir failure).2 := by
  unfold startChild Children.start Plugin.upshot
  cases plugin.locate env.workingDir with
  | error e => exact .fail (serious e)
  | ok executable =>
    dsimp only
    have warned : ∀ effect ∈ (if (plugin.spec executable dir).2 then
        [LogEntry.directoryUnknown dir] else []).map Effect.logged,
        effect.hire? = none ∧ effect.error? = none := by
      split <;> simp [Effect.hire?, Effect.error?, LogEntry.level]
    cases env.start (plugin.spec executable dir).1 with
    | error cause => exact .prepend warned (.fail (serious _))
    | ok pid => exact .prepend warned (.hire ..)

lemma engages_startTracker :
    Engages [Post.tracker.upshot s.collaborators options dir env] s.shared.children
      (s.startTracker env dir options).1.shared.children (s.startTracker env dir options).2 := by
  have skipped : Engages [.skipped] s.shared.children s.shared.children [] :=
    (Engages.nobody rfl (by simp)).skip
  unfold startTracker Post.upshot
  cases s.collaborators.hasTracker with
  | false => exact skipped
  | true =>
    cases env.trackerOptions with
    | error cause => exact skipped
    | ok stored =>
      dsimp only
      by_cases wanted : stored.enabled ∧ env.tracker.installed
      · simp only [wanted, and_self, if_true]
        cases env.tracker.prepare options stored env.writeConfig with
        | error e => exact .fail rfl
        | ok prepared =>
          refine Engages.prepend ?_ (engages_startChild prepared.1 fun _ => rfl)
          simp [Effect.hire?, Effect.error?]
      · simp only [wanted, if_false]
        exact skipped

lemma engages_startCommand (line : String) :
    Engages [(Post.command line).upshot s.collaborators options dir env] s.shared.children
      (s.startCommand env dir line).1.shared.children (s.startCommand env dir line).2 := by
  unfold startCommand Post.upshot
  dsimp only
  cases Plugin.ofCommandLine? line with
  | none => exact (Engages.nobody rfl (by simp)).skip
  | some program => exact engages_startChild program fun _ => rfl

/-- The posts that a launch has still to come to, at one of its stages. -/
inductive Pending (settings : Settings) (dir : Path) (options : ServerOptions) :
    LaunchStage → List Post → Prop
  | all : Pending settings dir options (.startTracker dir options) settings.posts
  | plugins (plugins : List Plugin) :
    Pending settings dir options (.startPlugins dir plugins)
      (plugins.map .plugin ++ .notice :: settings.commands.map .command)
  | commands (lines : List String) :
    Pending settings dir options (.startCommands dir lines) (lines.map .command)

/-- One step of a launch for each post, whatever comes of it. -/
lemma Pending.step {stage : LaunchStage} {post : Post} {rest : List Post}
    (pending : Pending s.settings dir options stage (post :: rest))
    (step : s.stepLaunch env { l with stage } = (t, more)) :
    ∃ later, Pending s.settings dir options later rest ∧
      t = { s with
        shared := { s.shared with children := t.shared.children }
        phase := .launching { l with stage := later } } ∧
      Engages [post.upshot s.collaborators options dir env] s.shared.children t.shared.children
        more ∧
      ∀ effect ∈ more, Outfitting effect := by
  generalize posts : post :: rest = all at pending
  cases pending with
  | all =>
    obtain ⟨rfl, rfl⟩ := List.cons.inj posts
    simp only [stepLaunch, andThen_eq, List.append_nil] at step
    obtain ⟨rfl, rfl⟩ := Prod.mk.inj step
    rw [startTracker_fst]
    exact ⟨_, .plugins _, rfl, engages_startTracker, outfitting_startTracker dir options⟩
  | plugins plugins =>
    cases plugins with
    | nil =>
      obtain ⟨rfl, rfl⟩ := List.cons.inj posts
      simp only [stepLaunch] at step
      obtain ⟨rfl, rfl⟩ := Prod.mk.inj step
      refine ⟨_, .commands _, rfl, (Engages.nobody rfl ?_).skip, ?_⟩
      · split <;> simp [Effect.hire?, Effect.error?, LogEntry.level]
      · split
        · simp
        · simpa using Outfitting.commandsDeprecated
    | cons plugin others =>
      obtain ⟨rfl, rfl⟩ := List.cons.inj posts
      simp only [stepLaunch, andThen_eq, List.append_nil] at step
      obtain ⟨rfl, rfl⟩ := Prod.mk.inj step
      exact ⟨_, .plugins others, rfl, engages_startChild plugin fun _ => rfl,
        outfitting_startChild plugin dir fun _ => .commandFailed⟩
  | commands lines =>
    cases lines with
    | nil => contradiction
    | cons line others =>
      obtain ⟨rfl, rfl⟩ := List.cons.inj posts
      simp only [stepLaunch, andThen_eq, List.append_nil] at step
      obtain ⟨rfl, rfl⟩ := Prod.mk.inj step
      rw [startCommand_fst]
      exact ⟨_, .commands others, rfl, engages_startCommand line, outfitting_startCommand dir line⟩

/-- The starts of the wrapper that a step asks for. -/
def Stride.asks (stride : Stride) : List WrapperStart :=
  stride.after.wrapperStarts.drop stride.before.wrapperStarts.length

/-- What has come of the posts that a launch has come to. The first seven steps come before them. -/
def upshots (settings : Settings) (collaborators : Collaborators) (options : ServerOptions)
    (dir : Path) (strides : List Stride) : List Upshot :=
  List.zipWith (fun post stride => post.upshot collaborators options dir stride.env)
    settings.posts (strides.drop 7)

lemma upshots_early (few : strides.length ≤ 7) :
    upshots settings collaborators options dir strides = [] := by
  rw [upshots, List.drop_eq_nil_of_le few, List.zipWith_nil_right]

/-- One more element on the right meets the first one on the left that has not been met. -/
lemma zipWith_concat {α β γ : Type} (f : α → β → γ) (lefts : List α) (rights : List β) (last : β) :
    List.zipWith f lefts (rights ++ [last]) =
      List.zipWith f lefts rights ++ (lefts[rights.length]?.map (f · last)).toList := by
  induction lefts generalizing rights with
  | nil => simp
  | cons left rest ih =>
    cases rights with
    | nil => simp
    | cons right others => simp [ih]

/-- Each step behind the first seven takes up the next post, as long as there is one. -/
lemma upshots_concat (stride : Stride) (early : 7 ≤ strides.length) :
    upshots settings collaborators options dir (strides ++ [stride]) =
      upshots settings collaborators options dir strides ++
        (settings.posts[strides.length - 7]?.map fun post =>
          post.upshot collaborators options dir stride.env).toList := by
  rw [upshots, List.drop_append_of_le_length early, zipWith_concat, List.length_drop]
  rfl

/-- The start of the wrapper that a session with these options asks for. -/
def wanted (collaborators : Collaborators) (options : ServerOptions) (x : Session)
    (event : RaceEvent) : List WrapperStart :=
  if collaborators.hasWrapper ∧ options.enableContentManagerWrapper
      ∧ options.contentManagerWrapperPort ≠ 0 then
    [⟨x.generation, options.contentManagerWrapperPort, event⟩]
  else []

/-- What can be seen of a launch whose session is `x`: it answers no error and starts one server. -/
def Calm (x : Session) : Effect → Prop
  | .answered _ (.error _) _ => False
  | .serverStarted generation pid _ => x = ⟨generation, pid⟩
  | _ => True

lemma Outfitting.calm {effect : Effect} (outfitting : Outfitting effect) : Calm x effect := by
  cases outfitting <;> trivial

/-- What a launch has found, has done beside its server, and has shown so far. -/
structure Roster (settings : Settings) (collaborators : Collaborators) (l : Launch) (x : Session)
    (dir : Path) (options : ServerOptions) (s : System) (strides : List Stride) : Prop where
  found : ∃ e₀ e₁ e₂ rest, strides.map (·.env) = e₀ :: e₁ :: e₂ :: rest ∧
    e₁.workingDir = .ok dir ∧ e₂.serverOptions = .ok options
  tracked : s.shared.children.tracked.map Child.label =
    ((upshots settings collaborators options dir strides).filterMap Upshot.hire?).map Hire.label
  hires : hires (strides.flatMap (·.shown)) =
    (upshots settings collaborators options dir strides).filterMap Upshot.hire?
  errors : errors (strides.flatMap (·.shown)) =
    (upshots settings collaborators options dir strides).filterMap Upshot.failure?
  asked : strides.flatMap Stride.asks =
    if 7 ≤ strides.length then wanted collaborators options x l.event else []
  calm : ∀ effect ∈ strides.flatMap (·.shown), Calm x effect

lemma Roster.beside (roster : Roster settings collaborators l x dir options s strides)
    (children : t.shared.children = s.shared.children) :
    Roster settings collaborators l x dir options t strides :=
  { roster with tracked := by rw [children]; exact roster.tracked }

lemma Roster.stride {added : List Upshot} {handed : List WrapperStart}
    (roster : Roster settings collaborators l x dir options s strides)
    (engages : Engages added s.shared.children t.shared.children more)
    (grown : upshots settings collaborators options dir (strides ++ [⟨s, env, t, more⟩]) =
      upshots settings collaborators options dir strides ++ added)
    (starts : t.wrapperStarts = s.wrapperStarts ++ handed)
    (asked : (if 7 ≤ strides.length + 1 then wanted collaborators options x l.event else []) =
      (if 7 ≤ strides.length then wanted collaborators options x l.event else []) ++ handed)
    (calm : ∀ effect ∈ more, Calm x effect) :
    Roster settings collaborators l x dir options t (strides ++ [⟨s, env, t, more⟩]) where
  found := by
    obtain ⟨e₀, e₁, e₂, rest, envs, found⟩ := roster.found
    exact ⟨e₀, e₁, e₂, rest ++ [env], by simp [envs], found⟩
  tracked := by
    rw [grown, engages.tracked, roster.tracked, List.filterMap_append, List.map_append]
  hires := by
    rw [grown, List.flatMap_append, hires_append, roster.hires, List.flatMap_singleton,
      engages.hires, List.filterMap_append]
  errors := by
    rw [grown, List.flatMap_append, errors_append, roster.errors, List.flatMap_singleton,
      engages.errors, List.filterMap_append]
  asked := by
    have handed : Stride.asks ⟨s, env, t, more⟩ = handed := by
      rw [Stride.asks, starts, List.drop_left]
    rw [List.flatMap_append, roster.asked, List.flatMap_singleton, handed, List.length_append,
      List.length_singleton, asked]
  calm := by
    intro effect shown
    rcases mem_shown_append.mp shown with before | now
    · exact roster.calm effect before
    · exact calm effect now

/-- Before the wrapper is asked to start nothing is done beside the server. -/
lemma Roster.early (roster : Roster settings collaborators l x dir options s strides)
    (few : strides.length < 6) (children : t.shared.children = s.shared.children)
    (wrapperStarts : t.wrapperStarts = s.wrapperStarts)
    (quiet : ∀ effect ∈ more, effect.hire? = none ∧ effect.error? = none)
    (calm : ∀ effect ∈ more, Calm x effect) :
    Roster settings collaborators l x dir options t (strides ++ [⟨s, env, t, more⟩]) := by
  refine roster.stride (.nobody children quiet) ?_
    (wrapperStarts.trans (List.append_nil _).symm) ?_ calm
  · rw [upshots_early, upshots_early (by omega)]
    · rfl
    · rw [List.length_append, List.length_singleton]
      omega
  · rw [if_neg (by omega), if_neg (by omega)]
    rfl

/-- Behind it each step takes up the next post, as long as there is one. -/
lemma Roster.late (roster : Roster settings collaborators l x dir options s strides) {k : Nat}
    (length : strides.length = 7 + k) (wrapperStarts : t.wrapperStarts = s.wrapperStarts)
    (engages : Engages (settings.posts[k]?.map fun post =>
      post.upshot collaborators options dir env).toList s.shared.children t.shared.children more)
    (calm : ∀ effect ∈ more, Calm x effect) :
    Roster settings collaborators l x dir options t (strides ++ [⟨s, env, t, more⟩]) := by
  have number : strides.length - 7 = k := by omega
  refine roster.stride engages ?_ (wrapperStarts.trans (List.append_nil _).symm) ?_ calm
  · rw [upshots_concat _ (by omega), number]
  · rw [if_pos (by omega), if_pos (by omega), List.append_nil]

/-- How far a launch has come whose server runs. -/
inductive Station (settings : Settings) (l : Launch) (x : Session) (dir : Path)
    (options : ServerOptions) (s : System) (strides : List Stride) : Prop
  | adopting {n : Nat} : strides.length = 5 →
    s.phase = .launching { l with stage := .adopt dir options n x } →
    Station settings l x dir options s strides
  | wrapper : strides.length = 6 → s.session = some x →
    s.phase = .launching { l with stage := .startWrapper dir options } →
    Station settings l x dir options s strides
  | posting {k : Nat} {stage : LaunchStage} {rest : List Post} : strides.length = 7 + k →
    k ≤ settings.posts.length → settings.posts.drop k = rest →
    Pending settings dir options stage rest → s.session = some x →
    s.phase = .launching { l with stage } →
    Station settings l x dir options s strides
  | ready : strides.length = 8 + settings.posts.length → s.session = some x →
    s.phase = .launching { l with stage := .finish } → Station settings l x dir options s strides
  | launched {isHeard : Bool} : strides.length = 9 + settings.posts.length → s.session = some x →
    s.phase = .waiting → s.machine = .active →
    .answered l.ticket (.ok ()) isHeard ∈ strides.flatMap (·.shown) →
    Station settings l x dir options s strides

lemma Station.beside (station : Station settings l x dir options s strides)
    (beside : s.Beside t more) : Station settings l x dir options t strides := by
  cases station with
  | adopting length phase => exact .adopting length (beside.phase.trans phase)
  | wrapper length session phase =>
    exact .wrapper length (beside.session.trans session) (beside.phase.trans phase)
  | posting length few rest pending session phase =>
    exact .posting length few rest pending (beside.session.trans session)
      (beside.phase.trans phase)
  | ready length session phase =>
    exact .ready length (beside.session.trans session) (beside.phase.trans phase)
  | launched length session phase machine answered =>
    exact .launched length (beside.session.trans session) (beside.phase.trans phase)
      (beside.machine.trans machine) answered

/-- With posts left a launch takes up the next one; with none left it has only to finish. -/
lemma Station.post {k : Nat} {stage : LaunchStage} {rest : List Post}
    (roster : Roster s.settings s.collaborators l x dir options s strides)
    (length : strides.length = 7 + k) (few : k ≤ s.settings.posts.length)
    (left : s.settings.posts.drop k = rest) (pending : Pending s.settings dir options stage rest)
    (session : s.session = some x) (done : s.stepLaunch env { l with stage } = (t, more)) :
    Station s.settings l x dir options t (strides ++ [⟨s, env, t, more⟩]) ∧
      Roster s.settings s.collaborators l x dir options t (strides ++ [⟨s, env, t, more⟩]) := by
  cases rest with
  | nil =>
    have all : k = s.settings.posts.length := by
      have none := List.drop_eq_nil_iff.mp left
      omega
    generalize none : ([] : List Post) = posts at pending
    cases pending with
    | all => contradiction
    | plugins plugins => simp at none
    | commands lines =>
      obtain rfl : lines = [] := by simpa using none.symm
      simp only [stepLaunch] at done
      obtain ⟨rfl, rfl⟩ := Prod.mk.inj done
      refine ⟨.ready (by simp [length, all]; omega) session rfl,
        roster.late length rfl ?_ (by simp)⟩
      rw [all, List.getElem?_eq_none (Nat.le_refl _)]
      exact .nobody rfl (by simp)
  | cons post rest =>
    obtain ⟨later, pending, whole, engages, outfitting⟩ := pending.step done
    have taken : s.settings.posts[k]? = some post := by
      rw [← List.head?_drop, left]
      rfl
    have fewer : k < s.settings.posts.length := (List.getElem?_eq_some_iff.mp taken).1
    have next : s.settings.posts.drop (k + 1) = rest := by
      rw [← List.tail_drop, left]
      rfl
    have kept : t.wrapperStarts = s.wrapperStarts := by rw [whole]
    refine ⟨.posting (by simp [length]; omega) fewer next pending ?_ ?_,
      roster.late length kept ?_ fun effect shown => (outfitting effect shown).calm⟩
    · rw [whole]
      exact session
    · rw [whole]
    · rw [taken]
      exact engages

/-- A launch whose server runs takes its next step, whatever the surroundings are like. -/
lemma Station.stride {now : Launch} (station : Station s.settings l x dir options s strides)
    (roster : Roster s.settings s.collaborators l x dir options s strides)
    (coherent : s.Coherent) (phase : s.phase = .launching now)
    (step : s.step? (.proceed env) = some (t, more)) :
    Station s.settings l x dir options t (strides ++ [⟨s, env, t, more⟩]) ∧
      Roster s.settings s.collaborators l x dir options t (strides ++ [⟨s, env, t, more⟩]) := by
  have fits := coherent.phase
  cases station with
  | @adopting n length here =>
    have done : s.stepLaunch env { l with stage := .adopt dir options n x } = (t, more) := by
      simpa [step?, proceed, here] using step
    simp only [stepLaunch] at done
    obtain ⟨rfl, rfl⟩ := Prod.mk.inj done
    refine ⟨.wrapper (by simp [length]) rfl rfl, roster.early (by omega) rfl rfl ?_ ?_⟩
    · simp [Effect.hire?, Effect.error?]
    · simp [Calm]
  | wrapper length session here =>
    have done : s.stepLaunch env { l with stage := .startWrapper dir options } = (t, more) := by
      simpa [step?, proceed, here] using step
    have handed := requestWrapper_commission here rfl
    simp only [stepLaunch] at done
    rw [requestWrapper_eq] at done
    obtain ⟨rfl, rfl⟩ := Prod.mk.inj done
    refine ⟨.posting (by rw [List.length_append, length]; rfl) (Nat.zero_le _) rfl .all session
      rfl, ?_⟩
    refine roster.stride (.nobody rfl (by simp)) ?_ handed ?_ (by simp)
    · rw [upshots_early (by simp [length]), upshots_early (by omega)]
      rfl
    · have commission : s.commission?.toList =
          wanted s.collaborators options x l.event := by
        simp only [commission?, here, session, wanted]
        split <;> rfl
      simp [length, commission]
  | @posting k stage rest length few left pending session here =>
    have done : s.stepLaunch env { l with stage } = (t, more) := by
      simpa [step?, proceed, here] using step
    exact Station.post roster length few left pending session done
  | ready length session here =>
    have done : s.stepLaunch env { l with stage := .finish } = (t, more) := by
      simpa [step?, proceed, here] using step
    have last : strides.length = 7 + (s.settings.posts.length + 1) := by omega
    simp only [PhaseFits, here, LaunchFits] at fits
    have legal : State.launching.allows .active = true := rfl
    simp only [stepLaunch, andThen_eq, setState_eq, fits.1, legal, if_true, answer, enter] at done
    obtain ⟨rfl, rfl⟩ := Prod.mk.inj done
    have answered : Effect.answered l.ticket (.ok ()) (s.listening.contains l.ticket) ∈
        [Effect.published .launching .active] ++
          [.answered l.ticket (.ok ()) (s.listening.contains l.ticket)] := by simp
    refine ⟨.launched (by simp [length]; omega) session rfl rfl
      (mem_shown_append.mpr (.inr answered)), roster.late last rfl ?_ (by simp [Calm])⟩
    rw [List.getElem?_eq_none (by omega)]
    exact .nobody rfl (by simp [Effect.hire?, Effect.error?])
  | launched length session here =>
    rw [here] at phase
    contradiction

lemma OnWay.unmanned (onWay : OnWay l start s strides) (generation pid : Nat)
    (spec : ProcessSpec) : .serverStarted generation pid spec ∉ strides.flatMap (·.shown) := by
  cases onWay with
  | announcing course | finding course | reading _ course | opening _ _ course
  | starting _ _ _ course =>
    rw [course.shown]
    simp [herald]

lemma Setback.unmanned {point : LaunchPoint} {e : SupervisorError}
    (setback : Setback l start point e s strides) (generation pid : Nat) (spec : ProcessSpec) :
    .serverStarted generation pid spec ∉ strides.flatMap (·.shown) := by
  obtain ⟨isHeard, shown⟩ := setback.shown
  rw [shown]
  split <;> simp [herald]

/-- Before its server runs a launch does nothing beside it. -/
lemma Course.roster {x₀ x₁ x₂ x₃ : Stride} {addressing : Addressing} {relays : List Relay}
    {n m : Nat}
    (course : Course l start s [x₀, x₁, x₂, x₃] (.startServer dir options n) addressing relays
      (herald l ++ [.relayOpened m]))
    (coherent : s.Coherent) (known : x₁.env.workingDir = .ok dir)
    (read : x₂.env.serverOptions = .ok options) (x : Session) :
    Roster settings collaborators l x dir options s [x₀, x₁, x₂, x₃] := by
  have fits := coherent.phase
  simp only [PhaseFits, course.phase, LaunchFits] at fits
  have nothing : upshots settings collaborators options dir [x₀, x₁, x₂, x₃] = [] :=
    upshots_early (by simp)
  constructor
  · exact ⟨x₀.env, x₁.env, x₂.env, [x₃.env], rfl, known, read⟩
  · rw [fits.2.1.children, nothing]
    rfl
  · rw [course.shown, nothing]
    rfl
  · rw [course.shown, nothing]
    rfl
  · have spared : [x₀, x₁, x₂, x₃].flatMap Stride.asks = [] := by
      refine List.flatMap_eq_nil_iff.mpr fun stride member => ?_
      rw [Stride.asks, (course.spares stride member).wrapperStarts]
      exact List.drop_length
    rw [spared]
    rfl
  · rw [course.shown]
    simp [herald, Calm]

/-- How it stands with what is started beside the server: there is none yet, or none any more, or
it runs. -/
inductive Staffing (settings : Settings) (collaborators : Collaborators) (l : Launch)
    (start s : System) (strides : List Stride) : Prop
  | onWay : OnWay l start s strides → Staffing settings collaborators l start s strides
  | failed : s.phase = .waiting →
    (∀ generation pid spec, .serverStarted generation pid spec ∉ strides.flatMap (·.shown)) →
    Staffing settings collaborators l start s strides
  | manned {x : Session} {dir : Path} {options : ServerOptions} :
    Station settings l x dir options s strides →
    Roster settings collaborators l x dir options s strides →
    Staffing settings collaborators l start s strides

/-- The step of a launch that can still fail: with it the server runs at the latest. -/
lemma OnWay.staffing (onWay : OnWay l start s strides)
    (running : Run (fresh settings collaborators) s heard)
    (step : s.step? (.proceed env) = some (t, more)) :
    Staffing settings collaborators l start t (strides ++ [⟨s, env, t, more⟩]) := by
  cases onWay.stride running step with
  | onWay onWay => exact .onWay onWay
  | failed first setback => exact .failed setback.phase setback.unmanned
  | past passed none =>
    cases onWay with
    | announcing | finding | reading | opening => simp at passed
    | @starting x₀ x₁ x₂ x₃ dir options relay known read opened course =>
      have done := course.stepLaunch step
      simp only [stepLaunch] at done
      cases started : env.start s.settings.server with
      | error cause =>
        have first : Relay.firstFault? x₃.before.sockets x₃.env.network l.addressing = .none :=
          Option.map_eq_none_iff.mp (Relay.opens_of_open? opened).firstFault?
        simp [LaunchPoint.firstFault?_eq, LaunchPoint.fault?, known, read, first, started] at none
      | ok pid =>
        have roster : Roster settings collaborators l ⟨s.nextGeneration, pid⟩ dir options s
            [x₀, x₁, x₂, x₃] := course.roster running.coherent known read _
        simp only [started] at done
        obtain ⟨rfl, rfl⟩ := Prod.mk.inj done
        refine .manned (.adopting rfl rfl) (roster.early (by simp) rfl rfl ?_ ?_)
        · simp [Effect.hire?, Effect.error?]
        · simp [Calm]

lemma Attempt.staffing (attempt : Attempt l start s strides)
    (run : Run (fresh settings collaborators) start seen) :
    (∃ seen, Run (fresh settings collaborators) s seen) ∧
      Staffing settings collaborators l start s strides := by
  induction attempt with
  | begin phase stage =>
    refine ⟨⟨seen, run⟩, .onWay (.announcing ?_)⟩
    constructor <;> simp [phase, ← stage]
  | @stride s t strides env now more attempt phase step ih =>
    obtain ⟨⟨seen, running⟩, staffing⟩ := ih
    refine ⟨⟨_, running.step step⟩, ?_⟩
    cases staffing with
    | onWay onWay => exact onWay.staffing running step
    | failed waiting =>
      rw [waiting] at phase
      contradiction
    | manned station roster =>
      obtain ⟨rfl, rfl⟩ := running.given
      obtain ⟨station, roster⟩ := station.stride roster running.coherent phase step
      exact .manned station roster
  | @beside s t strides i more attempt other alive step ih =>
    obtain ⟨⟨seen, running⟩, staffing⟩ := ih
    have beside := (step?_move running.coherent step).beside other alive
    refine ⟨⟨_, running.step step⟩, ?_⟩
    cases staffing with
    | onWay onWay => exact .onWay (onWay.beside beside)
    | failed waiting unmanned => exact .failed (beside.phase.trans waiting) unmanned
    | manned station roster => exact .manned (station.beside beside) (roster.beside beside.children)

/-- What can be told of a launch once its server runs. -/
structure Equipped (settings : Settings) (collaborators : Collaborators) (l : Launch) (x : Session)
    (dir : Path) (options : ServerOptions) (s : System) (strides : List Stride) : Prop
    extends Roster settings collaborators l x dir options s strides where
  /-- A post is filled just when it can be. -/
  filled : ∀ (post : Post) (env : Surroundings) (hire : Hire),
    post.upshot collaborators options dir env = .hired hire ↔
      post.Fills collaborators options dir env hire
  /-- The launch takes one step for each post, and nine others, in any surroundings. -/
  due : strides.length < 9 + settings.posts.length → ∀ env, (s.step? (.proceed env)).isSome = true
  brief : strides.length ≤ 9 + settings.posts.length
  /-- With the last of them it succeeds. -/
  succeeds : strides.length = 9 + settings.posts.length →
    s.phase = .waiting ∧ s.machine = .active ∧ s.session = some x ∧
      ∃ isHeard, .answered l.ticket (.ok ()) isHeard ∈ strides.flatMap (·.shown)

theorem Attempt.equipped {generation pid : Nat} {spec : ProcessSpec}
    (attempt : Attempt l start s strides) (run : Run (fresh settings collaborators) start seen)
    (served : .serverStarted generation pid spec ∈ strides.flatMap (·.shown)) :
    ∃ dir options, Equipped settings collaborators l ⟨generation, pid⟩ dir options s strides := by
  obtain ⟨-, staffing⟩ := attempt.staffing run
  cases staffing with
  | onWay onWay => exact absurd served (onWay.unmanned _ _ _)
  | failed waiting unmanned => exact absurd served (unmanned _ _ _)
  | @manned x dir options station roster =>
    obtain rfl : x = ⟨generation, pid⟩ := roster.calm _ served
    refine ⟨dir, options, { roster with filled := ?_, due := ?_, brief := ?_, succeeds := ?_ }⟩
    · exact fun post env hire => Post.upshot_eq_hired_iff
    · intro early env
      cases station with
      | adopting length phase | wrapper length session phase
      | posting length few rest pending session phase | ready length session phase =>
        simp [step?, proceed, phase]
      | launched length => omega
    · cases station <;> omega
    · intro whole
      cases station with
      | launched length session phase machine answered =>
        exact ⟨phase, machine, session, _, answered⟩
      | adopting length | wrapper length | posting length | ready length => omega

/-- Two plugins and three commands of the older form, some of which cannot be started. -/
def provided : Settings :=
  { accompanied with commands := ["", "/opt/timing fast", "/opt/radio loud"] }

/-- The tracker is refused, a plugin and a command are missing, and a line names nothing: what is
left runs all the same. -/
theorem equipped_meagre :
    ∃ l start seen s strides, Run (fresh provided ⟨true, true⟩)
        start seen ∧ Attempt l start s strides ∧
      .serverStarted 1 7 provided.server ∈ strides.flatMap (·.shown) ∧
      (∃ dir options, Equipped provided ⟨true, true⟩ l ⟨1, 7⟩ dir
        options s strides) ∧
      s.shared.children.tracked.map Child.label = [("weather", 7), ("radio", 7)] ∧
      errors (strides.flatMap (·.shown)) = [.trackerRefused .requiresUdpConfiguration,
        .commandFailed "/opt/timing" (.spawn "/opt/timing" .noEntry),
        .commandFailed "/opt/timing fast" (.spawn "/opt/timing" .noEntry)] := by
  let env : Surroundings := { meagre with trackerOptions := .ok ⟨true, 0, 0, 0⟩ }
  have steps : ∃ out ∈ (fresh provided ⟨true, true⟩).steps?
        [.submit ⟨1, .start ⟨"race"⟩ (.direct ":9000" 9001)⟩, .poll 0 (.ok ())],
      out.1.phase = .launching ⟨1, ⟨"race"⟩, .direct ":9000" 9001, .announce⟩ ∧
      ∃ last ∈ out.1.steps? ((List.replicate 16 env).map .proceed),
        .serverStarted 1 7 provided.server ∈ last.2 ∧
        last.1.shared.children.tracked.map Child.label = [("weather", 7), ("radio", 7)] ∧
        errors last.2 = [.trackerRefused .requiresUdpConfiguration,
          .commandFailed "/opt/timing" (.spawn "/opt/timing" .noEntry),
          .commandFailed "/opt/timing fast" (.spawn "/opt/timing" .noEntry)] := by
    refine ⟨_, rfl, rfl, _, rfl, ?_, ?_, ?_⟩
    · exact List.mem_of_getElem? (i := 3) rfl
    · decide
    · decide
  obtain ⟨⟨start, seen⟩, asked, phase, ⟨s, shown⟩, launch, served, tracked, errors⟩ := steps
  have run := Run.none.steps asked
  have begun : Attempt _ start start [] := .begin phase rfl
  obtain ⟨strides, attempt, rfl⟩ := begun.proceeds run launch
  exact ⟨_, start, _, s, _, run, attempt, served, attempt.equipped run served, tracked, errors⟩

end System
end RaceControl
