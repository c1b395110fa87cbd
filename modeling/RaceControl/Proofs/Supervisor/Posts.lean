import RaceControl.Proofs.Supervisor.Outfit

/-!
The steps of a launch one by one. Each was taken where the steps before it have led, so that a step
behind the first seven takes up the post of its own number and no other.
-/
namespace RaceControl.System
variable {settings : Settings} {collaborators : Collaborators} {start s t : System}
  {seen more : List Effect} {env : Surroundings} {l : Launch} {x : Session} {dir : Path}
  {options : ServerOptions} {strides : List Stride} {stride : Stride} {k : Nat}

/-- What comes of the start of one process beside the server, behind the warnings on the way. -/
inductive Starting (before : Children) (env : Surroundings) (plugin : Plugin) (fallback : Path)
    (failure : ProcessError → LogEntry) : Children → List Effect → Prop
  | started {executable : Path} {pid : Nat} {child : Child} (warnings : List LogEntry) :
    (∀ warning ∈ warnings, warning.level = .warning) →
    plugin.locate env.workingDir = .ok executable →
    env.start (plugin.spec executable fallback).1 = .ok pid →
    child = ⟨before.nextSerial, Plugin.logName executable, pid⟩ →
    Starting before env plugin fallback failure ⟨before.tracked ++ [child], before.nextSerial + 1⟩
      (warnings.map .logged ++ [.childStarted child (plugin.spec executable fallback).1])
  | failed {cause : ProcessError} (warnings : List LogEntry) :
    (∀ warning ∈ warnings, warning.level = .warning) →
    Starting before env plugin fallback failure before
      (warnings.map .logged ++ [.logged (failure cause)])

lemma startChild_starting (s : System) (env : Surroundings) (plugin : Plugin) (fallback : Path)
    (failure : ProcessError → LogEntry) :
    Starting s.shared.children env plugin fallback failure
      (s.startChild env plugin fallback failure).1.shared.children
      (s.startChild env plugin fallback failure).2 := by
  unfold startChild Children.start
  cases located : plugin.locate env.workingDir with
  | error cause => exact .failed [] (by simp)
  | ok executable =>
    dsimp only
    have warned : ∀ warning ∈ (if (plugin.spec executable fallback).2 then
        [LogEntry.directoryUnknown fallback] else []), warning.level = .warning := by
      split <;> simp [LogEntry.level]
    cases started : env.start (plugin.spec executable fallback).1 with
    | error cause => exact .failed _ warned
    | ok pid => exact .started _ warned located started rfl

section
variable {before after : Children} {plugin : Plugin} {fallback : Path}
  {failure : ProcessError → LogEntry}

lemma Starting.started_or_failed
    (starting : Starting before env plugin fallback failure after more) :
    (∃ child spec, plugin.locate env.workingDir = .ok spec.program ∧
      spec.arguments = plugin.arguments ∧ .childStarted child spec ∈ more ∧
      child ∈ after.tracked) ∨
    ∃ cause, .logged (failure cause) ∈ more := by
  cases starting with
  | @started executable pid child warnings _ located =>
    exact .inl ⟨child, (plugin.spec executable fallback).1, located, rfl, by simp, by simp⟩
  | @failed cause => exact .inr ⟨cause, by simp⟩

end

lemma Attempt.before (attempt : Attempt l start s strides) (taken : strides[k]? = some stride) :
    Attempt l start stride.before (strides.take k) ∧
      (∃ now, stride.before.phase = .launching now) ∧
      stride.before.step? (.proceed stride.env) = some (stride.after, stride.shown) := by
  induction attempt with
  | begin => simp at taken
  | @stride s t strides env now more attempt phase step ih =>
    by_cases earlier : k < strides.length
    · rw [List.getElem?_append_left earlier] at taken
      rw [List.take_append_of_le_length (Nat.le_of_lt earlier)]
      exact ih taken
    · have last : k = strides.length := by
        have bound := (List.getElem?_eq_some_iff.mp taken).1
        rw [List.length_append, List.length_singleton] at bound
        omega
      rw [last, List.getElem?_concat_length] at taken
      cases taken
      rw [last, List.take_left]
      exact ⟨attempt, ⟨now, phase⟩, step⟩
  | beside attempt other alive step ih => exact ih taken

/-- Whoever is kept track of after a step is so for the rest of the launch. -/
lemma Attempt.tracked_prefix (attempt : Attempt l start s strides)
    (run : Run (fresh settings collaborators) start seen) (member : stride ∈ strides) :
    stride.after.shared.children.tracked <+: s.shared.children.tracked := by
  induction attempt with
  | begin => contradiction
  | @stride s t strides env now more attempt phase step ih =>
    obtain ⟨⟨heard, running⟩, -⟩ := attempt.staffing run
    have grown : s.shared.children.tracked <+: t.shared.children.tracked := by
      cases running.handover step with
      | keeps _ _ children => exact ⟨[], by rw [children, List.append_nil]⟩
      | adds _ _ _ _ _ _ children =>
        rw [children]
        exact List.prefix_append ..
      | kills leaving => simp [phase] at leaving
    rcases List.mem_append.mp member with earlier | last
    · exact (ih earlier).trans grown
    · obtain rfl := List.mem_singleton.mp last
      exact List.prefix_refl _
  | @beside s t strides i more attempt other alive step ih =>
    obtain ⟨⟨heard, running⟩, -⟩ := attempt.staffing run
    rw [((step?_move running.coherent step).beside other alive).children]
    exact ih member

/-- The step behind the first seven that has the number of a post is the one that takes it up. -/
lemma Attempt.atPost {j : Nat} {post : Post} (attempt : Attempt l start s strides)
    (run : Run (fresh settings collaborators) start seen) (listed : settings.posts[j]? = some post)
    (taken : strides[7 + j]? = some stride) :
    stride.before.settings = settings ∧ stride.before.collaborators = collaborators ∧
      ∃ x dir options stage rest,
        Roster settings collaborators l x dir options stride.before (strides.take (7 + j)) ∧
        Pending settings dir options stage (post :: rest) ∧
        stride.before.phase = .launching { l with stage } ∧
        stride.before.stepLaunch stride.env { l with stage } = (stride.after, stride.shown) := by
  obtain ⟨attempt, ⟨now, phase⟩, step⟩ := attempt.before taken
  have bound : 7 + j < strides.length := (List.getElem?_eq_some_iff.mp taken).1
  have many : (strides.take (7 + j)).length = 7 + j := List.length_take_of_le (Nat.le_of_lt bound)
  have few : j < settings.posts.length := (List.getElem?_eq_some_iff.mp listed).1
  obtain ⟨⟨heard, running⟩, staffing⟩ := attempt.staffing run
  refine ⟨running.given.1, running.given.2, ?_⟩
  cases staffing with
  | onWay onWay =>
    have short := onWay.length_lt
    omega
  | failed waiting =>
    rw [waiting] at phase
    contradiction
  | @manned x dir options station roster =>
    cases station with
    | adopting length | wrapper length | ready length | launched length => omega
    | @posting number stage rest length _ left pending _ here =>
      obtain rfl : number = j := by omega
      have first : rest = post :: rest.tail := by
        have head : rest.head? = some post := by rw [← left, List.head?_drop, listed]
        exact (List.cons_head?_tail head).symm
      rw [first] at pending
      exact ⟨x, dir, options, stage, rest.tail, roster, pending, here,
        by simpa [step?, proceed, here] using step⟩

/-- A launch whose server runs goes on whatever happens, is over when it has taken up every post,
and then has succeeded. -/
lemma Attempt.succeeds (attempt : Attempt l start s strides)
    (run : Run (fresh settings collaborators) start seen) {generation pid : Nat}
    {spec : ProcessSpec} (served : .serverStarted generation pid spec ∈ strides.flatMap (·.shown)) :
    (s.phase ≠ .waiting → ∀ env, (s.step? (.proceed env)).isSome = true) ∧
      strides.length ≤ 9 + settings.posts.length ∧
      (s.phase = .waiting → strides.length = 9 + settings.posts.length ∧ s.machine = .active ∧
        ∃ isHeard, .answered l.ticket (.ok ()) isHeard ∈ strides.flatMap (·.shown)) := by
  obtain ⟨-, staffing⟩ := attempt.staffing run
  cases staffing with
  | onWay onWay => exact absurd served (onWay.unmanned _ _ _)
  | failed _ unmanned => exact absurd served (unmanned _ _ _)
  | manned station =>
    cases station with
    | adopting length phase | wrapper length _ phase | posting length _ _ _ _ phase
    | ready length _ phase =>
      refine ⟨fun _ env => by simp [step?, proceed, phase], by omega, fun waiting => ?_⟩
      rw [phase] at waiting
      contradiction
    | launched length _ phase machine answered =>
      exact ⟨fun busy => absurd phase busy, by omega, fun _ => ⟨length, machine, _, answered⟩⟩

end RaceControl.System
