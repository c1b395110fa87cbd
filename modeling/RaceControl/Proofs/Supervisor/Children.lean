import Mathlib.Data.List.Nodup
import RaceControl.Proofs.Supervisor.Lifecycle

/-!
The processes beside a server belong to its session: they are started while it is launched, kept
together until it is torn down, and killed there, each of them once.
-/
namespace RaceControl

/-- Whether an effect bounds a session or is about a process beside its server. -/
def Effect.isDomestic : Effect → Bool
  | .serverStarted .. | .launched _ | .childStarted .. | .killing _ | .childKilled _
  | .tornDown _ => true
  | _ => false

/-- What is seen of sessions and of the processes beside their servers. -/
def domestic (seen : List Effect) : List Effect := seen.filter Effect.isDomestic

lemma domestic_append (seen more : List Effect) :
    domestic (seen ++ more) = domestic seen ++ domestic more :=
  List.filter_append ..

lemma domestic_eq_nil {more : List Effect} (quiet : ∀ effect ∈ more, effect.isDomestic = false) :
    domestic more = [] :=
  List.filter_eq_nil_iff.mpr fun effect shown => by simp [quiet effect shown]

def Effect.start? : Effect → Option Child
  | .childStarted child _ => some child
  | _ => none

def Effect.kill? : Effect → Option Child
  | .childKilled child => some child
  | _ => none

/-- The processes that have been started beside servers. -/
def starts (seen : List Effect) : List Child := seen.filterMap Effect.start?

/-- The processes that have been sent a kill. -/
def kills (seen : List Effect) : List Child := seen.filterMap Effect.kill?

lemma starts_append (seen more : List Effect) :
    starts (seen ++ more) = starts seen ++ starts more :=
  List.filterMap_append

lemma kills_append (seen more : List Effect) : kills (seen ++ more) = kills seen ++ kills more :=
  List.filterMap_append

lemma starts_domestic (seen : List Effect) : starts (domestic seen) = starts seen :=
  filterMap_filter_told (by rintro ⟨⟩ <;> simp [Effect.isDomestic, Effect.start?]) seen

lemma kills_domestic (seen : List Effect) : kills (domestic seen) = kills seen :=
  filterMap_filter_told (by rintro ⟨⟩ <;> simp [Effect.isDomestic, Effect.kill?]) seen

@[simp] lemma starts_kills (children : List Child) : starts (Chapter.kills children) = [] := by
  simp only [Chapter.kills, starts, List.filterMap_cons, Effect.start?, List.filterMap_map]
  exact List.filterMap_eq_nil_iff.mpr fun _ _ => rfl

@[simp] lemma kills_kills (children : List Child) : kills (Chapter.kills children) = children := by
  simp only [Chapter.kills, kills, List.filterMap_cons, Effect.kill?, List.filterMap_map]
  exact List.filterMap_some

/-- A session with the processes that are started beside its server. -/
structure Household where
  session : Session
  spec : ProcessSpec
  children : List (Child × ProcessSpec)

namespace Household
variable (home : Household)

def tracked : List Child := home.children.map (·.1)

/-- What is seen of a household before it is broken up. -/
def founding : List Effect :=
  [.serverStarted home.session.generation home.session.pid home.spec,
    .launched home.session.generation] ++
    home.children.map fun (child, spec) => .childStarted child spec

def effects : List Effect :=
  home.founding ++ Chapter.kills home.tracked ++ [.tornDown home.session.generation]

/-- One more process is started. -/
def add (child : Child) (spec : ProcessSpec) : Household :=
  { home with children := home.children ++ [(child, spec)] }

lemma tracked_add (child : Child) (spec : ProcessSpec) :
    (home.add child spec).tracked = home.tracked ++ [child] := by
  simp [tracked, add]

lemma founding_add (child : Child) (spec : ProcessSpec) :
    (home.add child spec).founding = home.founding ++ [.childStarted child spec] := by
  simp [founding, add]

@[simp] lemma starts_founding : starts home.founding = home.tracked := by
  simp only [founding, starts, List.filterMap_append, List.filterMap_map]
  exact List.filterMap_eq_map ▸ rfl

@[simp] lemma kills_founding : kills home.founding = [] := by
  simp only [founding, kills, List.filterMap_append, List.filterMap_map]
  exact List.filterMap_eq_nil_iff.mpr fun _ _ => rfl

/-- Whoever is started in a household is killed when it is broken up. -/
lemma starts_effects : starts home.effects = kills home.effects := by
  have last : starts [.tornDown home.session.generation] =
      kills [.tornDown home.session.generation] := rfl
  simp [effects, starts_append, kills_append, last]

lemma starts_flatMap (homes : List Household) :
    starts (homes.flatMap effects) = kills (homes.flatMap effects) := by
  induction homes with
  | nil => rfl
  | cons home rest ih =>
    rw [List.flatMap_cons, starts_append, kills_append, home.starts_effects, ih]

end Household

/-- How what has been seen of a household belongs to the session and to the processes that are kept
track of. -/
inductive Keeps : Option Session → List Child → List Effect → Prop
  | nobody : Keeps none [] []
  | manned (x : Session) (spec : ProcessSpec) :
    Keeps none [] [.serverStarted x.generation x.pid spec]
  | serving (home : Household) : Keeps (some home.session) home.tracked home.founding
  | leaving (home : Household) :
    Keeps (some home.session) [] (home.founding ++ Chapter.kills home.tracked)

section
variable {session : Option Session} {tracked : List Child} {part : List Effect}

/-- All that have been started are killed already or kept track of. -/
lemma Keeps.starts (keeps : Keeps session tracked part) :
    RaceControl.starts part = kills part ++ tracked := by
  cases keeps with
  | nobody | manned => rfl
  | serving home => simp
  | leaving home => simp [starts_append, kills_append]

lemma Keeps.vacant (keeps : Keeps none tracked part) : tracked = [] := by
  cases keeps <;> rfl

end

/-- The session of a server that has been started but not been adopted yet. -/
def Phase.adopting? : Phase → Option Session
  | .launching l =>
    match l.stage with
    | .adopt _ _ _ x => some x
    | _ => none
  | _ => none

/-- Whether a teardown has killed the processes beside the server already. -/
def Phase.isPastKills : Phase → Bool
  | .tearingDown .prune _ | .tearingDown (.signal _) _ | .tearingDown .finish _ => true
  | _ => false

namespace System
variable {s t u : System} {seen more part : List Effect} {env : Surroundings} {l : Launch}

/-- What has been seen of the household of the moment, wherever the loop stands. -/
inductive Tended (s : System) : List Effect → Prop
  | nobody : s.session = none → s.phase.adopting? = none → s.shared.children.tracked = [] →
    Tended s []
  | manned {x} (spec) : s.session = none → s.phase.adopting? = some x →
    s.shared.children.tracked = [] → Tended s [.serverStarted x.generation x.pid spec]
  | serving (home : Household) : s.session = some home.session → s.phase.isPastKills = false →
    s.shared.children.tracked = home.tracked → Tended s home.founding
  | leaving (home : Household) : s.session = some home.session → s.phase.isPastKills = true →
    s.shared.children.tracked = [] → Tended s (home.founding ++ Chapter.kills home.tracked)
  | destroyed {told} : s.phase = .destroyed → Keeps s.session s.shared.children.tracked told →
    Tended s told

namespace Tended

lemma keeps (tended : s.Tended part) : Keeps s.session s.shared.children.tracked part := by
  cases tended with
  | nobody session adopting tracked =>
    rw [session, tracked]
    exact .nobody
  | manned spec session adopting tracked =>
    rw [session, tracked]
    exact .manned _ spec
  | serving home session early tracked =>
    rw [session, tracked]
    exact .serving home
  | leaving home session late tracked =>
    rw [session, tracked]
    exact .leaving home
  | destroyed phase keeps => exact keeps

/-- What changes neither the session nor its processes leaves the household as it is. -/
lemma same (tended : s.Tended part) (session : t.session = s.session)
    (children : t.shared.children = s.shared.children)
    (adopting : t.phase.adopting? = s.phase.adopting?)
    (kills : t.phase.isPastKills = s.phase.isPastKills)
    (destroyed : s.phase = .destroyed → t.phase = .destroyed) : t.Tended part := by
  cases tended with
  | nobody none vacant tracked =>
    exact .nobody (session.trans none) (adopting.trans vacant) (children ▸ tracked)
  | manned spec none adopts tracked =>
    exact .manned spec (session.trans none) (adopting.trans adopts) (children ▸ tracked)
  | serving home some early tracked =>
    exact .serving home (session.trans some) (kills.trans early) (children ▸ tracked)
  | leaving home some late tracked =>
    exact .leaving home (session.trans some) (kills.trans late) (children ▸ tracked)
  | destroyed phase keeps =>
    refine .destroyed (destroyed phase) ?_
    rwa [session, children]

/-- Without a session nothing is there before a server is started. -/
lemma eq_nil (tended : s.Tended part) (session : s.session = none)
    (adopting : s.phase.adopting? = none) (alive : s.phase ≠ .destroyed) :
    part = [] ∧ s.shared.children.tracked = [] := by
  cases tended with
  | nobody _ _ tracked => exact ⟨rfl, tracked⟩
  | manned spec _ adopts => simp [adopting] at adopts
  | serving home some | leaving home some => simp [session] at some
  | destroyed phase => exact absurd phase alive

/-- The household of a session whose processes have not been killed yet. -/
lemma household {x : Session} (tended : s.Tended part) (session : s.session = some x)
    (early : s.phase.isPastKills = false) (alive : s.phase ≠ .destroyed) :
    ∃ home : Household, home.session = x ∧ s.shared.children.tracked = home.tracked ∧
      part = home.founding := by
  cases tended with
  | nobody none | manned spec none => simp [session] at none
  | serving home some _ tracked =>
    exact ⟨home, Option.some.inj (some.symm.trans session), tracked, rfl⟩
  | leaving home some late => simp [early] at late
  | destroyed phase => exact absurd phase alive

end Tended

/-- A process that is started gets the next serial number and is kept track of as the last one. -/
inductive Raises (children : Children) : Children → List Effect → Prop
  | none : Raises children children []
  | one {child} (spec) : child.serial = children.nextSerial →
    Raises children ⟨children.tracked ++ [child], children.nextSerial + 1⟩
      [.childStarted child spec]

lemma raises_startChild (s : System) (env : Surroundings) (plugin : Plugin) (fallback : Path)
    (failure : ProcessError → LogEntry) :
    Raises s.shared.children (s.startChild env plugin fallback failure).1.shared.children
      (domestic (s.startChild env plugin fallback failure).2) := by
  have warned (warnings : List LogEntry) : domestic (warnings.map .logged) = [] :=
    domestic_eq_nil (by simp [Effect.isDomestic])
  unfold startChild Children.start
  cases plugin.locate env.workingDir with
  | error e => exact .none
  | ok executable =>
    dsimp only
    cases env.start (plugin.spec executable fallback).1 with
    | error cause =>
      rw [domestic_append, warned]
      exact .none
    | ok pid =>
      rw [domestic_append, warned]
      exact .one _ rfl

lemma AuxiliaryStart.raises {stage : LaunchStage} {children : Children}
    (start : AuxiliaryStart s env l stage children more) :
    Raises s.shared.children children (domestic more) := by
  cases start with
  | tracker =>
    unfold startTracker
    split
    · split
      · split
        · exact .none
        · exact raises_startChild s env _ _ _
      · exact .none
    · exact .none
  | plugin => exact raises_startChild s env _ _ _
  | lastPlugin =>
    split <;> exact .none
  | command =>
    unfold startCommand
    split
    · exact .none
    · exact raises_startChild s env _ _ _
  | lastCommand => exact .none

lemma plain_finishStop (purpose : Purpose) :
    (u.finishStop purpose).1.phase.adopting? = none ∧
      (u.finishStop purpose).1.phase.isPastKills = false := by
  cases purpose <;> exact ⟨rfl, rfl⟩

lemma plain_resume (next : Resumption) :
    (u.resume next).1.phase.adopting? = none ∧ (u.resume next).1.phase.isPastKills = false := by
  cases next with
  | finishStop purpose => exact plain_finishStop purpose
  | wait | keepStopping => exact ⟨rfl, rfl⟩

lemma Occasion.undomestic {purpose : Purpose} {before : List Effect}
    (occasion : Occasion s u purpose before) : domestic before = [] := by
  cases occasion <;> rfl

/-- What a turn does for the processes beside a server. -/
inductive Tends (s t : System) : List Effect → Prop
  | goesOn : t.session = s.session → t.shared.children = s.shared.children →
    t.phase.adopting? = s.phase.adopting? → t.phase.isPastKills = s.phase.isPastKills →
    Tends s t []
  | mans {x} (spec) : s.session = none → s.phase.adopting? = none → t.session = none →
    t.phase.adopting? = some x → t.shared.children = s.shared.children →
    Tends s t [.serverStarted x.generation x.pid spec]
  | adopts {x} : s.session = none → s.phase.adopting? = some x → t.session = some x →
    t.phase.isPastKills = false → t.shared.children = s.shared.children →
    Tends s t [.launched x.generation]
  | raises {l x child} (spec) : s.phase = .launching l → s.session = some x →
    t.session = some x → t.phase.isPastKills = false →
    child.serial = s.shared.children.nextSerial →
    t.shared.children = ⟨s.shared.children.tracked ++ [child], s.shared.children.nextSerial + 1⟩ →
    Tends s t [.childStarted child spec]
  | kills {x next} : s.phase = .tearingDown .killChildren next → s.session = some x →
    t.session = some x → t.phase.isPastKills = true →
    t.shared.children = s.shared.children.forget →
    Tends s t (Chapter.kills s.shared.children.tracked)
  | ends {x} : s.session = some x → s.phase.isPastKills = true → t.session = none →
    t.phase.adopting? = none → t.shared.children = s.shared.children →
    Tends s t [.tornDown x.generation]

lemma Turn.tends (turn : s.Turn t more) (coherent : s.Coherent) : Tends s t (domestic more) := by
  have fits := coherent.phase
  have goesOn (quiet : domestic more = []) (session : t.session = s.session)
      (children : t.shared.children = s.shared.children)
      (adopting : t.phase.adopting? = s.phase.adopting?)
      (kills : t.phase.isPastKills = s.phase.isPastKills) : Tends s t (domestic more) := by
    rw [quiet]
    exact .goesOn session children adopting kills
  cases turn with
  | announce phase stage | findDirectory phase stage _ | loadOptions phase stage _
  | openRelay phase stage _ | requestWrapper phase stage | activate phase stage =>
    exact goesOn rfl rfl rfl (by simp [phase, stage, Phase.adopting?])
      (by simp [phase, Phase.isPastKills])
  | startServer phase stage started =>
    simp only [PhaseFits, phase, LaunchFits, stage] at fits
    have session := fits.2.1.session
    exact .mans (x := ⟨s.nextGeneration, _⟩) _ session (by simp [phase, stage, Phase.adopting?])
      session rfl rfl
  | fail phase failure =>
    cases failure with
    | directory stage _ | options stage _ | relay stage _ | server stage _ _ =>
      exact goesOn rfl rfl rfl (by simp [phase, stage, Phase.adopting?])
        (by simp [phase, Phase.isPastKills])
  | adopt phase stage =>
    simp only [PhaseFits, phase, LaunchFits, stage] at fits
    exact .adopts fits.2.1.session (by simp [phase, stage, Phase.adopting?]) rfl rfl rfl
  | @auxiliary env l stage children more phase start =>
    have raises := start.raises
    simp only [PhaseFits, phase, LaunchFits] at fits
    obtain ⟨x, session, adopting, later⟩ : ∃ x, s.session = some x ∧
        s.phase.adopting? = none ∧ (Phase.launching { l with stage }).adopting? = none := by
      cases start with
      | tracker before | plugin before | lastPlugin before | command before
      | lastCommand before =>
        simp only [before] at fits
        obtain ⟨-, -, x, n, occupied, -⟩ := fits
        exact ⟨x, occupied.session, by simp [phase, before, Phase.adopting?], rfl⟩
    generalize domestic more = told at raises ⊢
    cases raises with
    | none => exact .goesOn rfl rfl (later.trans adopting.symm) (by rw [phase]; rfl)
    | one spec serial => exact .raises spec phase session session rfl serial rfl
  | @beginVacant u purpose before phase quiet session occasion =>
    obtain ⟨_, _, finished⟩ := finishStop_fst u purpose
    obtain ⟨adopting, kills⟩ := u.plain_finishStop purpose
    have none := occasion.undomestic
    obtain ⟨_, rfl⟩ := occasion.fst
    refine goesOn ?_ ?_ ?_ ?_ ?_
    · rw [domestic_append, none]
      exact domestic_eq_nil (forall_finishStop (fun _ _ => rfl) rfl)
    · rw [finished]
    · rw [finished]
    · rw [adopting, phase]
      rfl
    · rw [kills, phase]
      rfl
  | beginStop now phase quiet session occasion =>
    have none := occasion.undomestic
    obtain ⟨_, rfl⟩ := occasion.fst
    refine goesOn ?_ rfl rfl (by rw [phase]; rfl) (by rw [phase]; rfl)
    rw [domestic_append, none]
    split <;> rfl
  | exit attends queue session generation =>
    refine goesOn ?_ rfl rfl ?_ ?_
    · rw [domestic_append, domestic_eq_nil (forall_exitWarning rfl)]
      rfl
    · cases attends with
      | waiting phase | stopping phase => simp [phase, Phase.adopting?]
    · cases attends with
      | waiting phase | stopping phase => simp [phase, Phase.isPastKills]
  | staleExit attends queue stale =>
    refine goesOn ?_ rfl rfl rfl rfl
    rw [domestic_append, domestic_eq_nil (forall_exitWarning rfl)]
    rfl
  | kill phase quiet fresh grace =>
    exact goesOn (domestic_eq_nil (forall_forceKill rfl fun _ => rfl)) rfl rfl
      (by rw [phase]; rfl) (by rw [phase]; rfl)
  | giveUp phase | leave phase | forget phase | closeRelay phase | prune phase | signalled phase =>
    exact goesOn rfl rfl rfl (by rw [phase]; rfl) (by rw [phase]; rfl)
  | stopWrapper phase =>
    refine goesOn ?_ rfl rfl (by rw [phase]; rfl) (by rw [phase]; rfl)
    split <;> rfl
  | killChildren env phase =>
    simp only [PhaseFits, phase, TeardownFits] at fits
    obtain ⟨-, ⟨x, leaving⟩, -⟩ := fits
    rw [domestic, filter_killing (fun _ => rfl) (fun _ => rfl) fun _ _ _ => rfl]
    exact .kills phase leaving.session leaving.session rfl rfl
  | signal phase =>
    exact goesOn (domestic_eq_nil (forall_signal rfl)) rfl rfl (by rw [phase]; rfl)
      (by rw [phase]; rfl)
  | @tearDown x next phase session =>
    let rest : System := { s with machine := .idle, published := .idle, session := none }
    obtain ⟨_, _, resumed⟩ := resume_fst rest next
    have quiet : domestic (rest.resume next).2 = [] :=
      domestic_eq_nil (forall_resume (fun _ _ => rfl) rfl)
    have told : domestic (.published .tearingDown .idle :: .tornDown x.generation ::
        (rest.resume next).2) = [.tornDown x.generation] := congrArg (List.cons _) quiet
    rw [told]
    refine .ends session (by rw [phase]; rfl) ?_ (rest.plain_resume next).1 ?_
    · rw [resumed]
    · rw [resumed]

/-- A turn carries the household on, or breaks it up and is told of nothing more. -/
lemma Tends.tended {told : List Effect} (tends : Tends s t told) (tended : s.Tended part)
    (alive : s.phase ≠ .destroyed) :
    t.Tended (part ++ told) ∨
      ∃ home : Household, part ++ told = home.effects ∧ t.Tended [] := by
  cases tends with
  | goesOn session children adopting kills =>
    rw [List.append_nil]
    exact .inl (tended.same session children adopting kills fun gone => absurd gone alive)
  | mans spec session adopting none adopts children =>
    obtain ⟨rfl, tracked⟩ := tended.eq_nil session adopting alive
    exact .inl (.manned spec none adopts (children ▸ tracked))
  | @adopts x none adopts some early children =>
    cases tended with
    | @manned y spec _ same tracked =>
      obtain rfl := Option.some.inj (adopts.symm.trans same)
      exact .inl (.serving ⟨x, spec, []⟩ some early (children ▸ tracked))
    | nobody _ adopting => simp [adopting] at adopts
    | serving _ session | leaving _ session => simp [none] at session
    | destroyed gone => exact absurd gone alive
  | raises spec phase session some early serial children =>
    obtain ⟨home, rfl, tracked, rfl⟩ := tended.household session (by rw [phase]; rfl) alive
    rw [← home.founding_add]
    refine .inl (.serving (home.add _ spec) some early ?_)
    rw [home.tracked_add, ← tracked, children]
  | kills phase session some late children =>
    obtain ⟨home, rfl, tracked, rfl⟩ := tended.household session (by rw [phase]; rfl) alive
    rw [tracked]
    refine .inl (.leaving home some late ?_)
    rw [children]
    rfl
  | ends session late none adopting children =>
    cases tended with
    | leaving home same _ tracked =>
      obtain rfl := Option.some.inj (session.symm.trans same)
      exact .inr ⟨home, rfl, .nobody none adopting (children ▸ tracked)⟩
    | nobody vacant | manned _ vacant => simp [vacant] at session
    | serving _ _ early => simp [early] at late
    | destroyed gone => exact absurd gone alive

variable {settings : Settings} {collaborators : Collaborators}

lemma Beside.domestic (beside : s.Beside t more) : domestic more = [] := by
  refine domestic_eq_nil fun effect shown => ?_
  cases beside.aside effect shown <;> rfl

lemma domestic_destroy : domestic s.destroy.2 = [] :=
  domestic_eq_nil (by simp [destroy, Effect.isDomestic])

/-- Of all households but that of the moment everything has been seen. -/
lemma Run.tended (run : Run (fresh settings collaborators) s seen) :
    ∃ part, Serial Household.effects (domestic seen) part ∧ s.Tended part := by
  have kept := run.keeps (coherent_fresh settings collaborators)
    (P := fun s seen => ∃ part, Serial Household.effects (RaceControl.domestic seen) part ∧
      s.Tended part)
    ⟨[], .nil, .nobody rfl rfl rfl⟩
    -- A household that is broken up joins the whole ones, and the next part begins with nothing.
    (fun {s t seen more} coherent ⟨part, serial, tended⟩ turn => by
      have longer := serial.append (RaceControl.domestic more)
      rw [domestic_append]
      have tends := turn.tends coherent
      rcases tends.tended tended turn.unfinished.2 with tended | ⟨home, whole, tended⟩
      · exact ⟨_, longer, tended⟩
      · rw [whole] at longer
        exact ⟨[], longer.close, tended⟩)
    (fun {s t seen more} _ ⟨part, serial, tended⟩ beside => by
      refine ⟨part, ?_, tended.same beside.session beside.children (by rw [beside.phase])
        (by rw [beside.phase]) beside.phase.trans⟩
      rwa [domestic_append, beside.domestic, List.append_nil])
    (fun {s seen} _ ⟨part, serial, tended⟩ _ => by
      refine ⟨part, ?_, .destroyed rfl tended.keeps⟩
      rwa [domestic_append, domestic_destroy, List.append_nil])
  exact kept.2

/-- What a step does to the processes that are kept track of: it leaves them, adds one that it has
started, or kills all of them. -/
inductive Handover (s t : System) (more : List Effect) : Prop
  | keeps : starts more = [] → kills more = [] → t.shared.children = s.shared.children →
    Handover s t more
  | adds {l x child} : s.phase = .launching l → s.session = some x → t.session = some x →
    child.serial = s.shared.children.nextSerial → starts more = [child] → kills more = [] →
    t.shared.children = ⟨s.shared.children.tracked ++ [child], s.shared.children.nextSerial + 1⟩ →
    Handover s t more
  | kills {next} : s.phase = .tearingDown .killChildren next → starts more = [] →
    kills more = s.shared.children.tracked → t.shared.children = s.shared.children.forget →
    Handover s t more

lemma Tends.handover (tends : Tends s t (RaceControl.domestic more)) : Handover s t more := by
  have started := (starts_domestic more).symm
  have killed := (kills_domestic more).symm
  generalize RaceControl.domestic more = told at tends started killed
  cases tends with
  | goesOn _ children => exact .keeps started killed children
  | mans _ _ _ _ _ children => exact .keeps started killed children
  | adopts _ _ _ _ children => exact .keeps started killed children
  | raises spec phase session kept _ serial children =>
    exact .adds phase session kept serial started killed children
  | kills phase _ _ _ children =>
    rw [starts_kills] at started
    rw [kills_kills] at killed
    exact .kills phase started killed children
  | ends _ _ _ _ children => exact .keeps started killed children

lemma Run.handover {i : Input} (run : Run (fresh settings collaborators) s seen)
    (step : s.step? i = some (t, more)) : Handover s t more := by
  have quiet (none : RaceControl.domestic more = []) : starts more = [] ∧ kills more = [] := by
    rw [← starts_domestic, ← kills_domestic, none]
    exact ⟨rfl, rfl⟩
  rcases step?_cases run.coherent step with turn | beside | ⟨-, -, destroyed⟩
  · exact (turn.tends run.coherent).handover
  · obtain ⟨started, killed⟩ := quiet beside.domestic
    exact .keeps started killed beside.children
  · cases destroyed
    obtain ⟨started, killed⟩ := quiet domestic_destroy
    exact .keeps started killed rfl

/-- Serial numbers are given one after another. -/
lemma Run.serials (run : Run (fresh settings collaborators) s seen) :
    (starts seen).map (·.serial) = List.range s.shared.children.nextSerial := by
  induction run with
  | none => rfl
  | step run step ih =>
    rw [starts_append, List.map_append, ih]
    cases run.handover step with
    | keeps started _ children =>
      rw [started, children]
      simp
    | adds phase session _ serial started _ children =>
      rw [started, children, List.range_succ, ← serial]
      rfl
    | kills phase started _ children =>
      rw [started, children]
      simp [Children.forget]

/-- Whoever has been started has been killed or is kept track of. -/
lemma Run.book (run : Run (fresh settings collaborators) s seen) :
    starts seen = kills seen ++ s.shared.children.tracked := by
  obtain ⟨part, ⟨homes, told⟩, tended⟩ := run.tended
  rw [← starts_domestic, ← kills_domestic, told, starts_append, kills_append,
    Household.starts_flatMap, tended.keeps.starts, List.append_assoc]

/-- All that can be told of the processes beside servers, given what has been seen of a run. -/
structure Cared (s : System) (seen : List Effect) : Prop where
  /-- Every household is founded, and broken up with the kill of all its processes, before the next
  one is. Of the last one as much has been seen as there is of its session, and the processes that
  are kept track of are those of its session. -/
  households : ∃ part, Serial Household.effects (RaceControl.domestic seen) part ∧
    Keeps s.session s.shared.children.tracked part
  /-- Whoever has been started has been killed or is kept track of. -/
  book : starts seen = kills seen ++ s.shared.children.tracked
  /-- Nobody is started twice, and so nobody is killed twice. -/
  once : (starts seen).Nodup
  /-- Without a session nobody is left. -/
  vacant : s.session = none → kills seen = starts seen
  /-- Whoever is started is so for the session that is launched, behind its server. -/
  founded : ∀ {i t more child}, s.step? i = some (t, more) → child ∈ starts more →
    ∃ l x spec, s.phase = .launching l ∧ s.session = some x ∧ t.session = some x ∧
      t.shared.children.tracked = s.shared.children.tracked ++ [child] ∧
      .serverStarted x.generation x.pid spec ∈ seen ∧ .launched x.generation ∈ seen
  /-- Whoever is kept track of stays so until the kills of the teardown. -/
  stays : ∀ {i t more}, s.step? i = some (t, more) →
    s.shared.children.tracked <+: t.shared.children.tracked ∧ kills more = [] ∨
      ∃ next, s.phase = .tearingDown .killChildren next
  /-- There everybody is sent a kill, whatever comes of the kills of others. -/
  killed : ∀ {next}, s.phase = .tearingDown .killChildren next → ∀ env, ∃ t more,
    s.step? (.proceed env) = some (t, more) ∧ kills more = s.shared.children.tracked ∧
      t.shared.children.tracked = [] ∧ t.phase = .tearingDown .prune next

theorem Run.cared (run : Run (fresh settings collaborators) s seen) : s.Cared seen := by
  obtain ⟨part, ⟨homes, told⟩, tended⟩ := run.tended
  have seen_of_part {effect : Effect} (shown : effect ∈ part) : effect ∈ seen :=
    (List.mem_filter.mp (told ▸ List.mem_append_right _ shown)).1
  constructor
  · exact ⟨part, ⟨homes, told⟩, tended.keeps⟩
  · exact run.book
  · have distinct : ((starts seen).map (·.serial)).Nodup := by
      rw [run.serials]
      exact List.nodup_range
    exact distinct.of_map
  · intro session
    have tracked := tended.keeps
    rw [session] at tracked
    rw [run.book, tracked.vacant, List.append_nil]
  · intro i t more child step started
    cases run.handover step with
    | keeps none | kills _ none =>
      rw [none] at started
      contradiction
    | @adds l x _ phase session kept _ one _ children =>
      rw [one, List.mem_singleton] at started
      subst started
      obtain ⟨home, rfl, -, rfl⟩ :=
        tended.household session (by rw [phase]; rfl) (by simp [phase])
      exact ⟨l, _, home.spec, phase, session, kept, by rw [children],
        seen_of_part (by simp [Household.founding]), seen_of_part (by simp [Household.founding])⟩
  · intro i t more step
    cases run.handover step with
    | keeps _ killed children => exact .inl ⟨children ▸ List.prefix_refl _, killed⟩
    | adds phase session _ serial started killed children =>
      exact .inl ⟨children ▸ List.prefix_append .., killed⟩
    | kills phase => exact .inr ⟨_, phase⟩
  · intro next phase env
    refine ⟨_, _, by rw [step?, proceed, phase], ?_, rfl, rfl⟩
    have killed : RaceControl.domestic (s.killChildren env).2 =
        Chapter.kills s.shared.children.tracked :=
      filter_killing (fun _ => rfl) (fun _ => rfl) (fun _ _ _ => rfl) _
    change kills ((s.killChildren env).2 ++ []) = _
    rw [List.append_nil, ← kills_domestic, killed, kills_kills]

/-- A supervisor with two plugins, the first of which cannot be started. -/
def accompanied : Settings :=
  { Settings.standard with plugins := [⟨"/opt/timing", []⟩, ⟨"/opt/weather", []⟩] }

/-- The surroundings in which a plugin is missing and no process can be killed. -/
def meagre : Surroundings :=
  { obliging with
    start := fun spec => if spec.program = "/opt/timing" then .error .noEntry else .ok 7
    killChild := fun _ => .error .noEntry }

/-- Of two plugins one is started. It is sent a kill at the end of its session, which fails. -/
theorem cared_plugin :
    ∃ s seen, Run (fresh accompanied ⟨false, false⟩) s seen ∧ s.Cared seen ∧
      starts seen = [⟨0, "weather", 7⟩] ∧ kills seen = [⟨0, "weather", 7⟩] := by
  obtain ⟨⟨s, seen⟩, steps, told⟩ : ∃ out ∈ (fresh accompanied ⟨false, false⟩).steps?
      ([.submit ⟨1, .start ⟨"race"⟩ (.direct ":9000" 9001)⟩, .poll 0 (.ok ())] ++
        List.replicate 13 (.proceed meagre) ++
        [.waiterStep 1 (.ended (.ended (.code 0))), .poll 0 (.ok ())] ++
        List.replicate 7 (.proceed meagre)),
      starts out.2 = [⟨0, "weather", 7⟩] ∧ kills out.2 = [⟨0, "weather", 7⟩] := by
    refine ⟨_, rfl, ?_, ?_⟩ <;> decide
  have run := Run.none.steps steps
  exact ⟨s, seen, run, run.cared, told⟩

end System
end RaceControl
