import RaceControl.Proofs.Supervisor.Exits
import RaceControl.Proofs.Supervisor.Holders
import RaceControl.Proofs.Supervisor.Relays
import RaceControl.Proofs.Supervisor.Replies

/-!
What is left of a launch that fails. The first fault on its way is the one that is answered, and
with the answer the supervisor is as it was before the launch, but for the addressing that the
launch has brought along, and for the tasks of a relay whose server did not start.
-/
namespace RaceControl

/-- A step of a launch. -/
structure System.Stride where
  before : System
  env : Surroundings
  after : System
  shown : List Effect

/-- What a launch looks at before its server runs. -/
inductive LaunchPoint
  | workingDir
  | store
  | relay (point : Relay.OpeningPoint)
  | server
  deriving DecidableEq, Repr

namespace LaunchPoint
open RaceControl.System (Stride)

/-- In the order in which it is looked at. -/
def all : List LaunchPoint :=
  [.workingDir] ++ [.store] ++ Relay.OpeningPoint.all.map .relay ++ [.server]

/-- How many steps a launch takes before the one that looks at a point. -/
def turn : LaunchPoint → Nat
  | .workingDir => 1
  | .store => 2
  | .relay _ => 3
  | .server => 4

/-- Whether a point comes after the options have been read. -/
def isLate : LaunchPoint → Bool
  | .workingDir | .store => false
  | .relay _ | .server => true

/-- What fails at a point, in the step that looks at it. -/
def fault? (l : Launch) (x : Stride) : LaunchPoint → Option SupervisorError
  | .workingDir =>
    match x.env.workingDir with
    | .error cause => some (.io cause)
    | .ok _ => none
  | .store =>
    match x.env.serverOptions with
    | .error cause => some (.store cause)
    | .ok _ => none
  | .relay point => (Relay.fault? x.before.sockets x.env.network l.addressing point).map .relay
  | .server =>
    match x.env.start x.before.settings.server with
    | .error cause => some (.process (.spawn x.before.settings.program cause))
    | .ok _ => none

/-- The first point at which a launch fails, with its fault, as far as its steps have been taken. -/
def firstFault? (l : Launch) (strides : List Stride) : Option (LaunchPoint × SupervisorError) :=
  all.findSome? fun point =>
    (strides[point.turn]?.bind fun x => fault? l x point).map (point, ·)

variable {l : Launch}

/-- The first fault at the points of a relay is the one that it reports. -/
lemma findSome?_relay (x : Stride) :
    Relay.OpeningPoint.all.findSome? (fun point =>
      (fault? l x (.relay point)).map (LaunchPoint.relay point, ·)) =
      (Relay.firstFault? x.before.sockets x.env.network l.addressing).map
        fun (point, e) => (.relay point, .relay e) := by
  rw [Relay.firstFault?, List.map_findSome?]
  congr
  funext point
  simp only [Function.comp, fault?, Option.map_map]
  rfl

lemma firstFault?_eq (strides : List Stride) :
    firstFault? l strides =
      ((strides[1]?.bind fun x => fault? l x .workingDir).map (workingDir, ·)).or
        (((strides[2]?.bind fun x => fault? l x .store).map (store, ·)).or
          ((strides[3]?.bind fun x =>
            (Relay.firstFault? x.before.sockets x.env.network l.addressing).map
              fun (point, e) => (relay point, .relay e)).or
              ((strides[4]?.bind fun x => fault? l x .server).map (server, ·)))) := by
  have relays : Relay.OpeningPoint.all.findSome?
      ((fun point => (strides[point.turn]?.bind fun x => fault? l x point).map (point, ·)) ∘
        LaunchPoint.relay) = strides[3]?.bind fun x =>
          (Relay.firstFault? x.before.sockets x.env.network l.addressing).map
            fun (point, e) => (relay point, .relay e) := by
    cases looked : strides[3]? with
    | none => simp [Function.comp_def, turn, looked]
    | some x =>
      simp only [Function.comp_def, turn, looked, Option.bind_some]
      exact findSome?_relay x
  rw [firstFault?, all, List.findSome?_append, List.findSome?_append, List.findSome?_append,
    List.findSome?_map, relays]
  simp only [List.findSome?_singleton, Option.or_assoc]
  rfl

/-- What comes after the start of the server is not looked at. -/
lemma firstFault?_append {strides : List Stride} (passed : 5 ≤ strides.length)
    (more : List Stride) : firstFault? l (strides ++ more) = firstFault? l strides := by
  unfold firstFault?
  congr
  funext point
  rw [List.getElem?_append_left]
  cases point <;> simp only [turn] <;> omega

end LaunchPoint

/-- Whether the server of a launch runs already. -/
def LaunchStage.isManned : LaunchStage → Bool
  | .announce | .readDirectory | .readOptions _ | .openRelay .. | .startServer .. => false
  | _ => true

namespace System
variable {s t u start : System} {more : List Effect} {env : Surroundings} {l : Launch}

/-- A launch from its beginning on, with the steps that the loop has taken for it; what others do
meanwhile goes beside it. -/
inductive Attempt (l : Launch) (start : System) : System → List Stride → Prop
  | begin : start.phase = .launching l → l.stage = .announce → Attempt l start start []
  | stride {s t : System} {strides : List Stride} {env : Surroundings} {now : Launch}
    {more : List Effect} : Attempt l start s strides → s.phase = .launching now →
    s.step? (.proceed env) = some (t, more) → Attempt l start t (strides ++ [⟨s, env, t, more⟩])
  | beside {s t : System} {strides : List Stride} {i : Input} {more : List Effect} :
    Attempt l start s strides → i.isOwn = false → i ≠ .destroy → s.step? i = some (t, more) →
    Attempt l start t strides

lemma mem_shown_append {strides : List Stride} {x : Stride} {effect : Effect} :
    effect ∈ (strides ++ [x]).flatMap (·.shown) ↔
      effect ∈ strides.flatMap (·.shown) ∨ effect ∈ x.shown := by
  simp [List.flatMap_append]

/-- What a step leaves alone as long as a launch can fail. -/
structure Stride.Spares (x : Stride) : Prop where
  lastEvent : x.after.shared.lastEvent = x.before.shared.lastEvent
  children : x.after.shared.children = x.before.shared.children
  waiters : x.after.shared.waiters = x.before.shared.waiters
  channels : x.after.channels = x.before.channels
  wrapperStarts : x.after.wrapperStarts = x.before.wrapperStarts
  servers : x.after.servers = x.before.servers
  log : x.after.log = x.before.log

/-- What a launch shows first. -/
def herald (l : Launch) : List Effect := [.published .idle .launching, .launching l.event]

/-- What is left of a launch that has failed at a point, whatever goes on beside it. -/
structure Setback (l : Launch) (start : System) (point : LaunchPoint) (e : SupervisorError)
    (s : System) (strides : List Stride) : Prop where
  phase : s.phase = .waiting
  machine : s.machine = .idle
  rest : s.AtRest
  /-- No server runs, and none has ended unnoticed. -/
  servers : s.exits = [] ∧ ∀ server ∈ s.servers, server.waiter = .reported
  lastEvent : s.shared.lastEvent = start.shared.lastEvent
  addressing : s.shared.addressing =
    if point.isLate then l.addressing else start.shared.addressing
  /-- A relay has been opened only if the server was about to start, and it is closed again. -/
  relays : ∃ opened, s.relays = start.relays ++ opened ∧
    (∀ relay ∈ opened, relay.isOpen = false) ∧ opened.length = if point = .server then 1 else 0
  /-- Nobody but its own tasks still holds a socket of it. -/
  tasks : ∀ holder ∈ s.holders start.relays.length, ∃ loop, holder = .task loop
  spares : ∀ x ∈ strides, x.Spares
  /-- All that the launch has shown. Its answer is the last of it. -/
  shown : ∃ isHeard, strides.flatMap (·.shown) =
    herald l ++
      (if point = .server then
        [.relayOpened start.relays.length, .relayClosed start.relays.length] else []) ++
      [.logged (.startFailed e), .published .launching .idle,
        .answered l.ticket (.error e) isHeard]

/-- What is left of a launch that has failed at a point, its sockets included. -/
structure Aftermath (l : Launch) (start : System) (point : LaunchPoint) (e : SupervisorError)
    (s : System) (strides : List Stride) : Prop extends Setback l start point e s strides where
  /-- No socket is bound that was not bound before the launch, but those of a relay whose server did
  not start. -/
  sockets : ∀ n, (s.socketsOf n).Sublist (start.socketsOf n) ∨
    point = .server ∧ n = start.relays.length
  /-- That relay lets go of them as its tasks end. -/
  subsides : point = .server → s.Subsides start.relays.length

/-- A launch that can still fail, with the stage it has come to and what it has done of that which
others look at. -/
structure Course (l : Launch) (start s : System) (strides : List Stride) (stage : LaunchStage)
    (addressing : Addressing) (relays : List Relay) (shown : List Effect) : Prop where
  phase : s.phase = .launching { l with stage }
  lastEvent : s.shared.lastEvent = start.shared.lastEvent
  addressing : s.shared.addressing = addressing
  relays : s.relays = relays
  spares : ∀ x ∈ strides, x.Spares
  shown : strides.flatMap (·.shown) = shown

namespace Course
variable {strides : List Stride} {stage following : LaunchStage} {addressing changed : Addressing}
  {relays opened : List Relay} {shown : List Effect}

lemma beside (course : Course l start s strides stage addressing relays shown)
    (beside : s.Beside t more) : Course l start t strides stage addressing relays shown where
  phase := beside.phase.trans course.phase
  lastEvent := beside.lastEvent.trans course.lastEvent
  addressing := beside.addressing.trans course.addressing
  relays := beside.relays.trans course.relays
  spares := course.spares
  shown := course.shown

lemma stepLaunch (course : Course l start s strides stage addressing relays shown)
    (step : s.step? (.proceed env) = some (t, more)) :
    s.stepLaunch env { l with stage } = (t, more) := by
  simpa [step?, proceed, course.phase] using step

lemma goesOn (course : Course l start s strides stage addressing relays shown)
    (phase : t.phase = .launching { l with stage := following })
    (taken : t.shared.addressing = changed) (kept : t.relays = opened)
    (spares : Stride.Spares ⟨s, env, t, more⟩) :
    Course l start t (strides ++ [⟨s, env, t, more⟩]) following changed opened
      (shown ++ more) where
  phase := phase
  lastEvent := spares.lastEvent.trans course.lastEvent
  addressing := taken
  relays := kept
  spares := List.forall_mem_append.mpr ⟨course.spares, by simpa using spares⟩
  shown := by rw [List.flatMap_append, course.shown]; simp

end Course

/-- A launch that can still fail has found nothing amiss in the steps it has taken. -/
inductive OnWay (l : Launch) (start s : System) : List Stride → Prop
  | announcing : Course l start s [] .announce start.shared.addressing start.relays [] →
    OnWay l start s []
  | finding {x₀ : Stride} :
    Course l start s [x₀] .readDirectory start.shared.addressing start.relays (herald l) →
    OnWay l start s [x₀]
  | reading {x₀ x₁ : Stride} {dir : Path} : x₁.env.workingDir = .ok dir →
    Course l start s [x₀, x₁] (.readOptions dir) start.shared.addressing start.relays
      (herald l) → OnWay l start s [x₀, x₁]
  | opening {x₀ x₁ x₂ : Stride} {dir : Path} {options : ServerOptions} :
    x₁.env.workingDir = .ok dir → x₂.env.serverOptions = .ok options →
    Course l start s [x₀, x₁, x₂] (.openRelay dir options) l.addressing start.relays
      (herald l) → OnWay l start s [x₀, x₁, x₂]
  | starting {x₀ x₁ x₂ x₃ : Stride} {dir : Path} {options : ServerOptions} {relay : Relay} :
    x₁.env.workingDir = .ok dir → x₂.env.serverOptions = .ok options →
    Relay.open? x₃.before.sockets x₃.env.network l.addressing = .ok relay →
    Course l start s [x₀, x₁, x₂, x₃] (.startServer dir options start.relays.length)
      l.addressing (start.relays ++ [relay])
      (herald l ++ [.relayOpened start.relays.length]) → OnWay l start s [x₀, x₁, x₂, x₃]

/-- How a launch fares: it can still fail, or has failed, or is past that. -/
inductive Fares (l : Launch) (start s : System) (strides : List Stride) : Prop
  | onWay : OnWay l start s strides → Fares l start s strides
  | failed {point : LaunchPoint} {e : SupervisorError} :
    LaunchPoint.firstFault? l strides = some (point, e) → Setback l start point e s strides →
    Fares l start s strides
  | past : 5 ≤ strides.length → LaunchPoint.firstFault? l strides = none →
    (∀ now, s.phase = .launching now → now.stage.isManned = true) →
    (∀ ticket e isHeard, .answered ticket (.error e) isHeard ∉ strides.flatMap (·.shown)) →
    Fares l start s strides

variable {settings : Settings} {collaborators : Collaborators} {seen : List Effect}
  {strides : List Stride} {point : LaunchPoint} {e : SupervisorError}

lemma OnWay.beside (onWay : OnWay l start s strides) (beside : s.Beside t more) :
    OnWay l start t strides := by
  cases onWay with
  | announcing course => exact .announcing (course.beside beside)
  | finding course => exact .finding (course.beside beside)
  | reading dir course => exact .reading dir (course.beside beside)
  | opening dir options course => exact .opening dir options (course.beside beside)
  | starting dir options opened course => exact .starting dir options opened (course.beside beside)

/-- A launch that can still fail has not taken five steps yet. -/
lemma OnWay.length_lt (onWay : OnWay l start s strides) : strides.length < 5 := by
  cases onWay <;> simp

lemma OnWay.unmanned_phase (onWay : OnWay l start s strides) :
    ∃ stage, s.phase = .launching { l with stage } ∧ stage.isManned = false := by
  cases onWay with
  | announcing course | finding course | reading _ course | opening _ _ course
  | starting _ _ _ course => exact ⟨_, course.phase, rfl⟩

/-- As long as a launch can fail it has not been answered. -/
lemma OnWay.silent (onWay : OnWay l start s strides) :
    ∀ effect ∈ strides.flatMap (·.shown), IsSilent effect := by
  cases onWay with
  | announcing course | finding course | reading _ course | opening _ _ course
  | starting _ _ _ course =>
    rw [course.shown]
    simp [herald, IsSilent]

/-- The next relay is not open if all that have been opened since are closed. -/
lemma isOpen_of_append {opened : List Relay} (relays : s.relays = start.relays ++ opened)
    (closed : ∀ relay ∈ opened, relay.isOpen = false) :
    s.isOpen start.relays.length = false := by
  rw [System.isOpen, relay?, relays, List.getElem?_append_right (Nat.le_refl _)]
  cases found : opened[start.relays.length - start.relays.length]? with
  | none => rfl
  | some relay => exact closed relay (List.mem_of_getElem? found)

lemma Setback.beside (setback : Setback l start point e s strides) (beside : s.Beside t more)
    (run : Run (fresh settings collaborators) t seen) : Setback l start point e t strides := by
  have phase := beside.phase.trans setback.phase
  have rest : t.AtRest :=
    { vacant :=
        { session := beside.session.trans setback.rest.vacant.session
          event := beside.event.trans setback.rest.vacant.event
          relay := beside.relay.trans setback.rest.vacant.relay
          children := by rw [beside.children]; exact setback.rest.vacant.children }
      published := beside.published.trans setback.rest.published }
  obtain ⟨opened, relays, closed, -⟩ := setback.relays
  have fewer := beside.eases.holders beside.relays (isOpen_of_append relays closed)
  exact
    { phase, rest
      machine := beside.machine.trans setback.machine
      servers := run.vacant (by simp [phase, Phase.awaits]) rest.vacant.session
      lastEvent := beside.lastEvent.trans setback.lastEvent
      addressing := beside.addressing.trans setback.addressing
      relays := by rw [beside.relays]; exact setback.relays
      tasks := fun holder holds => setback.tasks holder (fewer.subset holds)
      spares := setback.spares
      shown := setback.shown }

/-- A launch that fails leaves nothing but tasks, if that which has failed closes its relay. -/
lemma Course.fails {stage : LaunchStage} {addressing : Addressing} {relays : List Relay}
    {shown cleanup : List Effect} (point : LaunchPoint)
    (course : Course l start s strides stage addressing relays shown)
    (failure : LaunchFailure s env { l with stage } u cleanup e)
    (run : Run (fresh settings collaborators) s seen)
    (step : s.step? (.proceed env) = some (t, more)) (announced : stage ≠ .announce)
    (fault : LaunchPoint.firstFault? l (strides ++ [⟨s, env, t, more⟩]) = some (point, e))
    (late : addressing = if point.isLate then l.addressing else start.shared.addressing)
    (closed : ∃ opened, u.relays = start.relays ++ opened ∧
      (∀ relay ∈ opened, relay.isOpen = false) ∧ opened.length = if point = .server then 1 else 0)
    (unseen : ∀ sending ∈ s.sendings, sending.stage.relay ≠ start.relays.length)
    (cleared : shown ++ cleanup = herald l ++ if point = .server then
      [.relayOpened start.relays.length, .relayClosed start.relays.length] else []) :
    Fares l start t (strides ++ [⟨s, env, t, more⟩]) := by
  have fits := run.coherent.phase
  simp only [PhaseFits, course.phase] at fits
  have vacant := failure.vacant fits
  have shared : u.shared = s.shared := by cases failure <;> rfl
  have spared : u.channels = s.channels ∧ u.wrapperStarts = s.wrapperStarts ∧
      u.servers = s.servers ∧ u.log = s.log ∧ u.sendings = s.sendings := by
    cases failure <;> exact ⟨rfl, rfl, rfl, rfl, rfl⟩
  have onward := run.step step
  have done := course.stepLaunch step
  rw [failure.stepLaunch (fits.launching announced)] at done
  cases done
  refine .failed fault ?_
  constructor
  · rfl
  · rfl
  · exact ⟨vacant, rfl⟩
  · exact onward.vacant rfl vacant.session
  · exact (congrArg Shared.lastEvent shared).trans course.lastEvent
  · exact (congrArg Shared.addressing shared).trans (course.addressing.trans late)
  · exact closed
  · obtain ⟨opened, relays, shut, -⟩ := closed
    refine exists_loop_of_unfound (isOpen_of_append relays shut) fun sending member => ?_
    exact unseen sending (spared.2.2.2.2 ▸ member)
  · refine List.forall_mem_append.mpr ⟨course.spares, ?_⟩
    simp only [List.mem_singleton, forall_eq]
    exact ⟨by rw [shared], by rw [shared], by rw [shared], spared.1, spared.2.1, spared.2.2.1,
      spared.2.2.2.1⟩
  · refine ⟨s.listening.contains l.ticket, ?_⟩
    rw [List.flatMap_append, course.shown, List.flatMap_singleton, ← List.append_assoc, cleared]

/-- A step of a launch that can fail either fails, or goes on, or has the server run. -/
lemma OnWay.stride (onWay : OnWay l start s strides) (run : Run (fresh settings collaborators) s seen)
    (step : s.step? (.proceed env) = some (t, more)) :
    Fares l start t (strides ++ [⟨s, env, t, more⟩]) := by
  have fits := run.coherent.phase
  have silent := onWay.silent
  -- No message knows of a relay before it has been opened.
  have unknown (relays : s.relays = start.relays) :
      ∀ sending ∈ s.sendings, sending.stage.relay ≠ start.relays.length := by
    intro sending member
    rw [← relays]
    exact Nat.ne_of_lt (run.anchored.messages sending member).1
  cases onWay with
  | announcing course =>
    simp only [PhaseFits, course.phase, LaunchFits] at fits
    have done := course.stepLaunch step
    simp only [stepLaunch, andThen_eq, setState_eq, fits.1] at done
    cases done
    refine .onWay (.finding (course.goesOn rfl course.addressing course.relays ?_))
    constructor <;> rfl
  | finding course =>
    cases found : env.workingDir with
    | error cause =>
      have failure : LaunchFailure s env { l with stage := .readDirectory } _ _ _ :=
        .directory rfl found
      refine course.fails .workingDir failure run step (by simp) ?_ rfl
        ⟨[], by simpa using course.relays, by simp⟩ (unknown course.relays) (by simp)
      simp [LaunchPoint.firstFault?_eq, LaunchPoint.fault?, found]
    | ok dir =>
      have done := course.stepLaunch step
      simp only [stepLaunch, found] at done
      cases done
      refine .onWay (.reading found (course.goesOn rfl course.addressing course.relays ?_))
      constructor <;> rfl
  | @reading x₀ x₁ dir known course =>
    cases found : env.serverOptions with
    | error cause =>
      have failure : LaunchFailure s env { l with stage := .readOptions dir } _ _ _ :=
        .options rfl found
      refine course.fails .store failure run step (by simp) ?_ rfl
        ⟨[], by simpa using course.relays, by simp⟩ (unknown course.relays) (by simp)
      simp [LaunchPoint.firstFault?_eq, LaunchPoint.fault?, known, found]
    | ok options =>
      have done := course.stepLaunch step
      simp only [stepLaunch, found] at done
      cases done
      refine .onWay (.opening known found (course.goesOn rfl rfl course.relays ?_))
      constructor <;> rfl
  | @opening x₀ x₁ x₂ dir options known read course =>
    cases opened : Relay.open? s.sockets env.network l.addressing with
    | error cause =>
      obtain ⟨⟨point, _⟩, first, rfl⟩ :=
        Option.map_eq_some_iff.mp (Relay.opens_of_open? opened).firstFault?
      have failure : LaunchFailure s env { l with stage := .openRelay dir options } _ _ _ :=
        .relay rfl opened
      refine course.fails (.relay point) failure run step (by simp) ?_ rfl
        ⟨[], by simpa using course.relays, by simp⟩ (unknown course.relays) (by simp)
      simp [LaunchPoint.firstFault?_eq, LaunchPoint.fault?, known, read, first]
    | ok relay =>
      have done := course.stepLaunch step
      simp only [stepLaunch, opened, course.relays] at done
      cases done
      refine .onWay (.starting known read opened
        (course.goesOn rfl course.addressing (congrArg (· ++ [relay]) course.relays) ?_))
      constructor <;> rfl
  | @starting x₀ x₁ x₂ x₃ dir options relay known read opened course =>
    have first : Relay.firstFault? x₃.before.sockets x₃.env.network l.addressing = none :=
      Option.map_eq_none_iff.mp (Relay.opens_of_open? opened).firstFault?
    cases started : env.start s.settings.server with
    | error cause =>
      have last : s.relay? start.relays.length = some relay := by simp [relay?, course.relays]
      have failure : LaunchFailure s env
          { l with stage := .startServer dir options start.relays.length } _ _ _ :=
        .server rfl started last
      refine course.fails .server failure run step (by simp) ?_ rfl
        ⟨[relay.close], by simp [course.relays], by simp [Relay.close], rfl⟩ ?_ (by simp)
      · simp [LaunchPoint.firstFault?_eq, LaunchPoint.fault?, known, read, first, started]
      · intro sending member same
        exact (run.anchored.messages sending member).2 (by simp [Phase.relay?, course.phase, same])
    | ok pid =>
      have done := course.stepLaunch step
      simp only [stepLaunch, started] at done
      cases done
      refine .past (by simp) ?_ ?_ ?_
      · simp [LaunchPoint.firstFault?_eq, LaunchPoint.fault?, known, read, first, started]
      · rintro now phase
        cases phase
        rfl
      · intro ticket e isHeard answered
        rcases mem_shown_append.mp answered with before | answered
        · exact silent _ before ticket _ isHeard rfl
        · simp at answered

/-- Once its server runs a launch goes on until it succeeds. -/
lemma Turn.manned {now : Launch} (turn : s.Turn t more) (phase : s.phase = .launching now)
    (manned : now.stage.isManned = true) :
    (∀ later, t.phase = .launching later → later.stage.isManned = true) ∧
      ∀ ticket e isHeard, .answered ticket (.error e) isHeard ∉ more := by
  have here {l : Launch} (other : s.phase = .launching l) : l.stage.isManned = true := by
    cases other.symm.trans phase
    exact manned
  cases turn with
  | announce phase stage | findDirectory phase stage | loadOptions phase stage
  | openRelay phase stage | startServer phase stage =>
    have manned := here phase
    rw [stage] at manned
    contradiction
  | fail phase failure =>
    have manned := here phase
    cases failure with
    | directory stage | options stage | relay stage | server stage =>
      rw [stage] at manned
      contradiction
  | adopt | requestWrapper => simp [LaunchStage.isManned]
  | auxiliary _ start =>
    refine ⟨fun later same => ?_, fun ticket e isHeard answered => ?_⟩
    · cases same
      cases start <;> rfl
    · cases start.outfitting _ answered
  | activate => simp
  | exit attends | staleExit attends =>
    cases attends with
    | waiting other | stopping other =>
      rw [phase] at other
      contradiction
  | _ => simp_all only [reduceCtorEq]

lemma Attempt.fares (attempt : Attempt l start s strides)
    (run : Run (fresh settings collaborators) start seen) :
    (∃ seen, Run (fresh settings collaborators) s seen) ∧ Fares l start s strides := by
  induction attempt with
  | begin phase stage =>
    refine ⟨⟨seen, run⟩, .onWay (.announcing ?_)⟩
    constructor <;> simp [phase, ← stage]
  | @stride s t strides env now more attempt phase step ih =>
    obtain ⟨⟨seen, running⟩, fares⟩ := ih
    refine ⟨⟨_, running.step step⟩, ?_⟩
    cases fares with
    | onWay onWay => exact onWay.stride running step
    | failed fault setback =>
      rw [setback.phase] at phase
      contradiction
    | past length fault manned answers =>
      cases step?_move running.coherent step with
      | apart detached => contradiction
      | turn own turn =>
        obtain ⟨later, answered⟩ := turn.manned phase (manned now phase)
        refine .past (by simpa using Nat.le_succ_of_le length) ?_ later ?_
        · rw [LaunchPoint.firstFault?_append length, fault]
        · exact fun ticket e isHeard shown => (mem_shown_append.mp shown).elim
            (answers ticket e isHeard) (answered ticket e isHeard)
  | @beside s t strides i more attempt other alive step ih =>
    obtain ⟨⟨seen, running⟩, fares⟩ := ih
    have onward := running.step step
    have beside := (step?_move running.coherent step).beside other alive
    refine ⟨⟨_, onward⟩, ?_⟩
    cases fares with
    | onWay onWay => exact .onWay (onWay.beside beside)
    | failed fault setback => exact .failed fault (setback.beside beside onward)
    | past length fault manned answers =>
      exact .past length fault (by rwa [beside.phase]) answers

/-- A launch that can still fail has found nothing amiss. -/
lemma OnWay.firstFault? (onWay : OnWay l start s strides) :
    LaunchPoint.firstFault? l strides = none := by
  cases onWay with
  | announcing | finding => simp [LaunchPoint.firstFault?_eq]
  | reading known => simp [LaunchPoint.firstFault?_eq, LaunchPoint.fault?, known]
  | opening known read => simp [LaunchPoint.firstFault?_eq, LaunchPoint.fault?, known, read]
  | @starting x₀ x₁ x₂ x₃ dir options relay known read opened course =>
    have first : Relay.firstFault? x₃.before.sockets x₃.env.network l.addressing = none :=
      Option.map_eq_none_iff.mp (Relay.opens_of_open? opened).firstFault?
    simp [LaunchPoint.firstFault?_eq, LaunchPoint.fault?, known, read, first]

lemma Attempt.passage (attempt : Attempt l start s strides) : ∃ passed, Passage start s passed := by
  induction attempt with
  | begin => exact ⟨[], .none⟩
  | stride _ _ step ih | beside _ _ _ step ih =>
    obtain ⟨passed, passage⟩ := ih
    exact ⟨_, passage.step step⟩

lemma Attempt.stage (attempt : Attempt l start s strides) :
    start.phase = .launching l ∧ l.stage = .announce := by
  induction attempt with
  | begin phase stage => exact ⟨phase, stage⟩
  | stride _ _ _ ih | beside _ _ _ _ ih => exact ih

/-- A launch begins with every relay closed that there has been. -/
lemma Attempt.closed (attempt : Attempt l start s strides)
    (run : Run (fresh settings collaborators) start seen) :
    ∀ relay ∈ start.relays, relay.isOpen = false := by
  obtain ⟨phase, stage⟩ := attempt.stage
  have fits := run.coherent.phase
  simp only [PhaseFits, phase, LaunchFits, stage] at fits
  have custody := run.custody (by simp [phase])
  simp only [inUse?, phase, stage, fits.2.relay] at custody
  exact custody.closed

lemma Attempt.aftermath (attempt : Attempt l start s strides)
    (run : Run (fresh settings collaborators) start seen)
    (running : Run (fresh settings collaborators) s more)
    (setback : Setback l start point e s strides) : Aftermath l start point e s strides := by
  obtain ⟨passed, passage⟩ := attempt.passage
  obtain ⟨opened, relays, closed, length⟩ := setback.relays
  have size : s.relays.length = start.relays.length + opened.length := by simp [relays]
  refine { setback with sockets := fun n => ?_, subsides := fun failed => ?_ }
  · rcases Nat.lt_trichotomy n start.relays.length with known | rfl | new
    · exact .inl (passage.socketsOf run known (isOpen_of_closed (attempt.closed run) n))
    · by_cases failed : point = .server
      · exact .inr ⟨failed, rfl⟩
      · rw [if_neg failed] at length
        have beyond : s.relay? start.relays.length = none :=
          List.getElem?_eq_none (by omega)
        simp [System.socketsOf, beyond]
    · have beyond : s.relay? n = none := List.getElem?_eq_none (by split at length <;> omega)
      simp [System.socketsOf, beyond]
  · rw [if_pos failed] at length
    exact running.subsides (by omega) (isOpen_of_append relays closed)

/-- What comes of a launch. -/
structure Outcome (l : Launch) (start s : System) (strides : List Stride) : Prop where
  /-- With the first fault the launch is over. -/
  failed : ∀ {point e}, LaunchPoint.firstFault? l strides = some (point, e) →
    Aftermath l start point e s strides
  /-- Without a fault nobody is told of one. -/
  spotless : LaunchPoint.firstFault? l strides = none →
    ∀ ticket e isHeard, .answered ticket (.error e) isHeard ∉ strides.flatMap (·.shown)
  /-- As long as it lasts, the next step is due. -/
  due : ∀ {now}, s.phase = .launching now → ∀ env, (s.step? (.proceed env)).isSome = true

theorem Attempt.outcome (attempt : Attempt l start s strides)
    (run : Run (fresh settings collaborators) start seen) : Outcome l start s strides := by
  obtain ⟨⟨heard, running⟩, fares⟩ := attempt.fares run
  constructor
  · intro point e fault
    cases fares with
    | onWay onWay =>
      rw [onWay.firstFault?] at fault
      contradiction
    | failed first setback =>
      cases first.symm.trans fault
      exact attempt.aftermath run running setback
    | past length none =>
      rw [none] at fault
      contradiction
  · intro none
    cases fares with
    | onWay onWay =>
      exact fun ticket e isHeard answered => onWay.silent _ answered ticket _ isHeard rfl
    | failed first =>
      rw [none] at first
      contradiction
    | past length fault manned answers => exact answers
  · intro now phase env
    simp [step?, proceed, phase]

lemma Attempt.launching_or_waiting (attempt : Attempt l start s strides)
    (run : Run (fresh settings collaborators) start seen) :
    (∃ now, s.phase = .launching now) ∨ s.phase = .waiting := by
  induction attempt with
  | begin phase => exact .inl ⟨l, phase⟩
  | stride attempt phase step =>
    obtain ⟨⟨_, running⟩, -⟩ := attempt.fares run
    exact (((step?_move running.coherent step).toTurn rfl).launching phase).imp_right And.left
  | beside attempt other alive step ih =>
    obtain ⟨⟨_, running⟩, -⟩ := attempt.fares run
    rwa [((step?_move running.coherent step).beside other alive).phase]

/-- As long as the loop goes on by itself it takes the steps of the launch. -/
lemma Attempt.launching (attempt : Attempt l start s strides)
    (run : Run (fresh settings collaborators) start seen)
    (step : s.step? (.proceed env) = some (t, more)) : ∃ now, s.phase = .launching now := by
  refine (attempt.launching_or_waiting run).resolve_right fun waiting => ?_
  simp [step?, proceed, waiting] at step

lemma Attempt.proceeds {envs : List Surroundings} (attempt : Attempt l start s strides)
    (run : Run (fresh settings collaborators) start seen)
    (steps : s.steps? (envs.map .proceed) = some (t, more)) :
    ∃ later, Attempt l start t (strides ++ later) ∧ later.flatMap (·.shown) = more := by
  induction envs generalizing s strides more with
  | nil =>
    cases steps
    exact ⟨[], by simpa using attempt, rfl⟩
  | cons env rest ih =>
    obtain ⟨⟨u, first⟩, step, steps⟩ := Option.bind_eq_some_iff.mp steps
    obtain ⟨⟨v, last⟩, remaining, same⟩ := Option.map_eq_some_iff.mp steps
    cases same
    obtain ⟨now, phase⟩ := attempt.launching run step
    obtain ⟨later, whole, shown⟩ := ih (attempt.stride phase step) remaining
    refine ⟨⟨s, env, u, first⟩ :: later, ?_, ?_⟩
    · simpa using whole
    · simp [shown]

/-- A launch whose relay forwards what it receives. -/
def forwarding : Launch :=
  ⟨1, ⟨"race"⟩, (Addressing.direct ":9000" 9001).withForwarding ":9003" 9002, .announce⟩

/-- Surroundings in which no process can be started. -/
def refusing : Surroundings := { obliging with start := fun _ => .error .noEntry }

/-- The relay of a server that does not start keeps its sockets until both of its tasks have
ended. -/
theorem outcome_unmanned :
    ∃ start before s strides t passed, Run (fresh .standard ⟨false, false⟩) start before ∧
      Attempt forwarding start s strides ∧ Outcome forwarding start s strides ∧
      Aftermath forwarding start .server (.process (.spawn Settings.standard.program .noEntry)) s
        strides ∧
      s.sockets.map (·.address.port) = [9001, 9002, 9001, 9002] ∧
      Passage s t passed ∧ t.sockets = [] := by
  have fresh : Run (fresh .standard ⟨false, false⟩) _ _ := .none
  have asked := fresh.step (i := .submit ⟨1, .start forwarding.event forwarding.addressing⟩) rfl
  have run := asked.step (i := .poll 0 (.ok ())) rfl
  have begins {start : System} {seen : List Effect}
      (_ : Run (System.fresh .standard ⟨false, false⟩) start seen)
      (phase : start.phase = .launching forwarding) :
      Attempt forwarding start start [] := .begin phase rfl
  have announcing := begins run rfl
  have finding := announcing.stride rfl (rfl : System.step? _ (.proceed refusing) = _)
  have reading := finding.stride rfl (rfl : System.step? _ (.proceed refusing) = _)
  have opening := reading.stride rfl (rfl : System.step? _ (.proceed refusing) = _)
  have starting := opening.stride rfl (rfl : System.step? _ (.proceed refusing) = _)
  have failed := starting.stride rfl (rfl : System.step? _ (.proceed refusing) = _)
  have outcome := failed.outcome run
  have onwards {start s : System} {strides : List Stride}
      (_ : Attempt forwarding start s strides) : Passage s s [] := .none
  have received := (onwards failed).step (rfl : System.step? _ (.endTask ⟨0, .receiving⟩) = _)
  have returned := received.step (rfl : System.step? _ (.endTask ⟨0, .returning⟩) = _)
  exact ⟨_, _, _, _, _, _, run, failed, outcome, outcome.failed (by decide), by decide, returned,
    by decide⟩

/-- Every launch of a run is such an attempt. -/
theorem Run.attempted {now : Launch} (run : Run (fresh settings collaborators) s seen)
    (phase : s.phase = .launching now) :
    ∃ l start before strides, Run (fresh settings collaborators) start before ∧
      Attempt l start s strides := by
  induction run generalizing now with
  | none => contradiction
  | @step s t seen more i run step ih =>
    have move := step?_move run.coherent step
    by_cases busy : ∃ l, s.phase = .launching l
    · obtain ⟨earlier, launching⟩ := busy
      obtain ⟨l, start, before, strides, first, attempt⟩ := ih launching
      cases own : i.isOwn with
      | true =>
        cases i with
        | proceed env => exact ⟨l, start, before, _, first, attempt.stride launching step⟩
        | poll => simp [step?, poll, launching] at step
        | _ => contradiction
      | false =>
        refine ⟨l, start, before, strides, first, attempt.beside own ?_ step⟩
        rintro rfl
        cases move with
        | turn | apart => contradiction
        | destroy => contradiction
    · cases move with
      | turn own turn =>
        have outside := turn.outside fun l launching => busy ⟨l, launching⟩
        exact ⟨now, t, _, [], run.step step, .begin phase (outside.begins now phase)⟩
      | enter | refuse | hangUp | report => exact absurd ⟨now, phase⟩ busy
      | notice member racing beside => exact absurd ⟨now, beside.phase.symm.trans phase⟩ busy
      | apart detached apart => exact absurd ⟨now, apart.phase.symm.trans phase⟩ busy
      | destroy => contradiction

end System
end RaceControl
