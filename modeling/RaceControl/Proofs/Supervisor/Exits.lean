import Mathlib.Data.List.Nodup
import RaceControl.Proofs.Supervisor.Lifecycle

/-!
Exits belong to the current session. Every server that has been started reports its end once, and
what waits to be handled is at most the end of the one server that is expected to end.
-/
namespace RaceControl

/-- Whether an effect is about the end of a server process. -/
def Effect.concernsEnd : Effect → Bool
  | .serverKilled _ | .exitQueued _ | .exitHandled .. => true
  | _ => false

def report? : Effect → Option Nat
  | .exitQueued generation => some generation
  | _ => none

/-- The generations of the servers whose end has been reported, in the order of the reports. -/
def reports (seen : List Effect) : List Nat := seen.filterMap report?

lemma reports_append (seen more : List Effect) :
    reports (seen ++ more) = reports seen ++ reports more :=
  List.filterMap_append

lemma reports_eq_nil {more : List Effect} (quiet : ∀ generation, .exitQueued generation ∉ more) :
    reports more = [] := by
  refine List.filterMap_eq_nil_iff.mpr fun effect shown => ?_
  cases effect with
  | exitQueued generation => exact absurd shown (quiet generation)
  | _ => rfl

lemma reports_of_undelivered {more : List Effect}
    (quiet : ∀ effect ∈ more, effect.isDelivery = false) : reports more = [] :=
  reports_eq_nil fun generation shown => by simpa using quiet _ shown

def launch? : Effect → Option Nat
  | .launched generation => some generation
  | _ => none

/-- The generations of the sessions that have been launched. -/
def launches (seen : List Effect) : List Nat := seen.filterMap launch?

lemma launches_append (seen more : List Effect) :
    launches (seen ++ more) = launches seen ++ launches more :=
  List.filterMap_append

/-- Of the part of a chapter that has been told, only servers that were started are launched. -/
lemma Chapter.launches_sublist {wrapped : Bool} {part : List Effect} (chapter : Chapter)
    (told : part <+: chapter.milestones wrapped) : (launches part).Sublist (generations part) := by
  cases chapter with
  | abortive relay =>
    have none : launches part = [] := by
      refine List.filterMap_eq_nil_iff.mpr fun effect shown => ?_
      have member := told.subset shown
      simp only [milestones, List.mem_cons, List.not_mem_nil, or_false] at member
      obtain rfl | rfl := member <;> rfl
    rw [none]
    exact List.nil_sublist _
  | session relay x spec children channels signalled sent =>
    -- the relay is opened, the server started and the session launched before anything else
    obtain rfl | ⟨_, rfl, second⟩ := List.prefix_cons_iff.mp told
    · exact List.nil_sublist _
    obtain rfl | ⟨_, rfl, third⟩ := List.prefix_cons_iff.mp second
    · exact List.nil_sublist _
    obtain rfl | ⟨rest, rfl, others⟩ := List.prefix_cons_iff.mp third
    · exact List.nil_sublist _
    have none : launches rest = [] := by
      refine List.filterMap_eq_nil_iff.mpr fun effect shown => ?_
      have member := others.subset shown
      cases effect with
      | launched generation =>
        cases wrapped <;> simp [farewell, kills, signals] at member
      | _ => rfl
    change (x.generation :: launches rest).Sublist (x.generation :: generations rest)
    rw [none]
    exact (List.nil_sublist _).cons_cons _

/-- How the servers that were started, and the exits that wait to be handled, belong to the session
that is expected to end. -/
inductive Awaited (servers : List Server) : Option Session → List Exit → Prop
  | nobody : (∀ server ∈ servers, server.waiter = .reported) → Awaited servers none []
  | running {x} :
    (∃ server ∈ servers, server.generation = x.generation ∧ server.pid = x.pid) →
    (∀ server ∈ servers, server.waiter = .reported ↔ server.generation ≠ x.generation) →
    Awaited servers (some x) []
  | ended {x result} : (∀ server ∈ servers, server.waiter = .reported) →
    Awaited servers (some x) [⟨x.generation, result⟩]

namespace Awaited
variable {servers : List Server} {expected : Option Session} {exits : List Exit}

/-- What changes neither the process of a server nor what its waiter has seen is of no concern. -/
lemma map {change : Server → Server} (awaited : Awaited servers expected exits)
    (same : ∀ server, (change server).generation = server.generation ∧
      (change server).pid = server.pid ∧ (change server).waiter = server.waiter) :
    Awaited (servers.map change) expected exits := by
  cases awaited with
  | nobody all =>
    refine .nobody (List.forall_mem_map.mpr fun server member => ?_)
    rw [(same server).2.2]
    exact all server member
  | running one rest =>
    obtain ⟨server, member, generation, pid⟩ := one
    refine .running ⟨_, List.mem_map_of_mem member, (same server).1.trans generation,
      (same server).2.1.trans pid⟩ (List.forall_mem_map.mpr fun server member => ?_)
    rw [(same server).1, (same server).2.2]
    exact rest server member
  | ended all =>
    refine .ended (List.forall_mem_map.mpr fun server member => ?_)
    rw [(same server).2.2]
    exact all server member

/-- A server with a new generation is started when all others have ended. -/
lemma start {generation pid : Nat} (awaited : Awaited servers none exits)
    (below : ∀ server ∈ servers, server.generation < generation) :
    Awaited (servers ++ [⟨generation, pid, false, .racing⟩]) (some ⟨generation, pid⟩) exits := by
  cases awaited with
  | nobody all =>
    refine .running ⟨_, List.mem_append_right _ (List.mem_singleton_self _), rfl, rfl⟩ ?_
    refine List.forall_mem_append.mpr ⟨fun server member => ?_, by simp⟩
    simp [all server member, Nat.ne_of_lt (below server member)]

/-- A waiter that has not reported waits for the session that is expected to end. -/
lemma waits {server : Server} (awaited : Awaited servers expected exits)
    (member : server ∈ servers) (waits : server.waiter ≠ .reported) :
    exits = [] ∧ ∃ x, expected = some x ∧ x.generation = server.generation ∧
      (∃ server ∈ servers, server.generation = x.generation ∧ server.pid = x.pid) ∧
      ∀ server ∈ servers, server.waiter = .reported ↔ server.generation ≠ x.generation := by
  cases awaited with
  | nobody all | ended all => exact absurd (all server member) waits
  | @running x one rest =>
    have generation : server.generation = x.generation := by
      by_contra other
      exact waits ((rest server member).mpr other)
    exact ⟨rfl, x, rfl, generation.symm, one, rest⟩

lemma notice {server : Server} (awaited : Awaited servers expected exits)
    (member : server ∈ servers) (racing : server.waiter = .racing) :
    Awaited (servers.map fun other =>
      if other.generation = server.generation then { other with waiter := .draining } else other)
      expected exits := by
  obtain ⟨quiet, x, current, generation, ⟨one, there, same, pid⟩, rest⟩ :=
    awaited.waits member (by simp [racing])
  rw [quiet, current, ← generation]
  refine .running ⟨_, List.mem_map_of_mem there, ?_, ?_⟩ (List.forall_mem_map.mpr ?_)
  · split <;> exact same
  · split <;> exact pid
  · intro other member
    have others := rest other member
    split
    case isTrue same => simp [same]
    case isFalse => exact others

lemma report {server : Server} {result : WaitResult} (awaited : Awaited servers expected exits)
    (member : server ∈ servers) (unreported : server.waiter ≠ .reported) :
    Awaited (servers.map fun other =>
      if other.generation = server.generation then { other with waiter := .reported } else other)
      expected (exits ++ [⟨server.generation, result⟩]) := by
  obtain ⟨quiet, x, current, generation, -, rest⟩ := awaited.waits member unreported
  rw [quiet, current, ← generation]
  refine .ended (List.forall_mem_map.mpr fun other member => ?_)
  split
  case isTrue => rfl
  case isFalse different => exact (rest other member).mpr different

end Awaited

namespace System
variable {s t u : System} {seen more : List Effect}

/-- The session whose end the loop has not dealt with. A launch knows it before it is set, and a
teardown still holds it afterwards. -/
def expected (s : System) : Option Session :=
  match s.phase with
  | .launching l =>
    match l.stage with
    | .adopt _ _ _ x => some x
    | _ => s.session
  | .tearingDown .. => none
  | _ => s.session

lemma expected_of_awaits (awaits : s.phase.awaits = true) : s.expected = s.session := by
  cases phase : s.phase with
  | waiting | stopping => simp only [expected, phase]
  | _ => simp [phase, Phase.awaits] at awaits

lemma expected_finishStop (purpose : Purpose) : (u.finishStop purpose).1.expected = u.session := by
  cases purpose <;> rfl

lemma expected_resume {next : Resumption} (final : next.IsFinal) :
    (u.resume next).1.expected = u.session := by
  cases next with
  | wait => rfl
  | finishStop purpose => exact expected_finishStop purpose
  | keepStopping stop => exact final.elim

/-- The ways in which a turn shows something about the end of a server. -/
inductive Heeds (s : System) : Effect → Prop
  | killed {stop} : s.phase = .stopping stop → s.exits = [] →
    Heeds s (.serverKilled stop.session.pid)
  | handled {exit exits x} : s.exits = exit :: exits → s.session = some x →
    x.generation = exit.generation → Heeds s (.exitHandled exit.generation false)
  | stale {exit exits next} : Attends s next → s.exits = exit :: exits →
    (∀ x, s.session = some x → x.generation ≠ exit.generation) →
    Heeds s (.exitHandled exit.generation true)

lemma Turn.heeds (turn : s.Turn t more) {effect : Effect} (shown : effect ∈ more)
    (concerns : effect.concernsEnd = true) : Heeds s effect := by
  have quiet (quiet : ∀ effect ∈ more, effect.concernsEnd = false) : Heeds s effect := by
    rw [quiet effect shown] at concerns
    contradiction
  cases turn with
  | fail phase failure => exact quiet (by cases failure <;> simp [Effect.concernsEnd])
  | auxiliary phase start =>
    exact quiet fun effect shown => by cases start.outfitting effect shown <;> rfl
  | beginVacant phase exits session occasion =>
    refine quiet (List.forall_mem_append.mpr ⟨?_, forall_finishStop (fun _ _ => rfl) rfl⟩)
    cases occasion <;> simp [Effect.concernsEnd]
  | beginStop now phase exits session occasion =>
    refine quiet (List.forall_mem_append.mpr ⟨?_, ?_⟩)
    · cases occasion <;> simp [Effect.concernsEnd]
    · split <;> simp [Effect.concernsEnd]
  | exit attends queue session generation =>
    simp only [List.mem_append, List.mem_cons, List.not_mem_nil, or_false] at shown
    obtain warned | rfl | rfl := shown
    · rw [eq_of_mem_exitWarning warned] at concerns
      contradiction
    · contradiction
    · exact .handled queue session generation
  | staleExit attends queue stale =>
    simp only [List.mem_append, List.mem_singleton] at shown
    obtain warned | rfl := shown
    · rw [eq_of_mem_exitWarning warned] at concerns
      contradiction
    · exact .stale attends queue stale
  | kill phase exits fresh grace =>
    exact forall_forceKill (p := fun effect => effect.concernsEnd = true → Heeds s effect)
      (fun _ => .killed phase exits) (fun _ concerns => by contradiction) effect shown concerns
  | stopWrapper => exact quiet (by split <;> simp [Effect.concernsEnd])
  | killChildren env phase => exact quiet (forall_kills rfl (fun _ => rfl) fun _ _ _ => rfl)
  | signal => exact quiet (forall_signal rfl)
  | tearDown phase session =>
    exact quiet (List.forall_mem_cons.mpr ⟨rfl, List.forall_mem_cons.mpr
      ⟨rfl, forall_resume (fun _ _ => rfl) rfl⟩⟩)
  | announce | findDirectory | loadOptions | openRelay | startServer | adopt | requestWrapper
  | activate | giveUp | leave | forget | closeRelay | prune | signalled =>
    exact quiet (by simp [Effect.concernsEnd])

/-- Only the waiters report exits. -/
lemma Turn.reports (turn : s.Turn t more) : reports more = [] :=
  reports_eq_nil fun _ shown => nomatch turn.heeds shown rfl

/-- A turn adds a server exactly if it shows the start of one. -/
lemma Turn.servers (turn : s.Turn t more) :
    t.servers.map (·.generation) = s.servers.map (·.generation) ++ generations more := by
  have kept (none : generations more = [])
      (same : t.servers.map (·.generation) = s.servers.map (·.generation)) :
      t.servers.map (·.generation) = s.servers.map (·.generation) ++ generations more := by
    rw [none, List.append_nil, same]
  -- no other turn shows the start of a server, as it would have to use a generation up
  have unused (same : t.nextGeneration = s.nextGeneration) : generations more = [] := by
    rcases turn.started with ⟨none, -⟩ | ⟨-, later⟩
    · exact none
    · exact absurd (same.symm.trans later) (Nat.ne_of_lt (Nat.lt_succ_self _))
  cases turn with
  | startServer => simp [addServer, generations, generation?]
  | fail phase failure => cases failure <;> exact kept rfl rfl
  | beginVacant phase quiet session occasion =>
    obtain ⟨_, _, _, finished⟩ := occasion.finishStop_fst
    rw [finished] at kept unused ⊢
    exact kept (unused rfl) rfl
  | beginStop now phase quiet session occasion =>
    obtain ⟨_, rfl⟩ := occasion.fst
    refine kept (unused rfl) ?_
    rw [List.map_map]
    refine List.map_congr_left fun server _ => ?_
    simp only [Function.comp_apply]
    split <;> rfl
  | @tearDown x next phase session =>
    obtain ⟨_, _, resumed⟩ := s.tearDown_fst next
    rw [resumed] at kept unused ⊢
    exact kept (unused rfl) rfl
  | _ => exact kept (unused rfl) rfl

lemma Attends.expected {next : Resumption} (attends : s.Attends next) : s.expected = s.session := by
  cases attends with
  | waiting phase | stopping phase => simp only [System.expected, phase]

lemma Turn.awaited (turn : s.Turn t more) (coherent : s.Coherent)
    (below : ∀ server ∈ s.servers, server.generation < s.nextGeneration)
    (awaited : Awaited s.servers s.expected s.exits) :
    Awaited t.servers t.expected t.exits := by
  have fits := coherent.phase
  cases turn with
  | announce phase stage | findDirectory phase stage _ | loadOptions phase stage _
  | openRelay phase stage _ | requestWrapper phase stage | activate phase stage =>
    simpa only [expected, phase, stage] using awaited
  | startServer phase stage started =>
    simp only [PhaseFits, phase, LaunchFits, stage] at fits
    simp only [expected, phase, stage, fits.2.1.session] at awaited
    exact awaited.start below
  | fail phase failure =>
    cases failure with
    | directory stage _ | options stage _ | relay stage _ | server stage _ _ =>
      simpa only [expected, phase, stage] using awaited
  | adopt phase stage => simpa only [expected, phase, stage] using awaited
  | auxiliary phase start =>
    cases start with
    | tracker stage | plugin stage | lastPlugin stage | command stage | lastCommand stage =>
      simpa only [expected, phase, stage] using awaited
  | @beginVacant u purpose before phase quiet session occasion =>
    obtain ⟨_, rfl⟩ := occasion.fst
    obtain ⟨_, _, finished⟩ := finishStop_fst { s with requests := _ } purpose
    rw [expected_finishStop, finished]
    simpa only [expected, phase] using awaited
  | beginStop now phase quiet session occasion =>
    obtain ⟨_, rfl⟩ := occasion.fst
    simp only [expected, phase] at awaited
    exact awaited.map fun server => by split <;> exact ⟨rfl, rfl, rfl⟩
  | exit attends queue session generation =>
    rw [attends.expected, queue, session] at awaited
    cases awaited with
    | ended all => exact .nobody all
  | staleExit attends queue stale =>
    rw [attends.expected, queue] at awaited
    generalize current : s.session = session at awaited
    cases awaited with
    | @ended x result => exact absurd rfl (stale x current)
  | kill phase | giveUp phase | leave phase | forget phase | closeRelay phase | stopWrapper phase
  | killChildren env phase | prune phase | signal phase | signalled phase =>
    simpa only [expected, phase] using awaited
  | @tearDown x next phase session =>
    simp only [PhaseFits, phase] at fits
    obtain ⟨_, _, resumed⟩ := s.tearDown_fst next
    rw [expected_resume fits.2.2, resumed]
    simpa only [expected, phase] using awaited

lemma setWaiter_generations (generation : Nat) (waiter : Waiter) :
    (s.setWaiter generation waiter).servers.map (·.generation) = s.servers.map (·.generation) := by
  refine (List.map_map ..).trans (List.map_congr_left fun server _ => ?_)
  simp only [Function.comp_apply]
  split <;> rfl

variable {settings : Settings} {collaborators : Collaborators}

/-- Every server process that was started is there, with its own generation. -/
lemma Run.servers (run : Run (fresh settings collaborators) s seen) :
    s.servers.map (·.generation) = generations seen :=
  run.keeps_moves (P := fun s seen => s.servers.map (·.generation) = generations seen) rfl
    fun _ same move => by
      rw [generations_append, ← same]
      cases move with
      | turn own turn => exact turn.servers
      | enter | refuse | hangUp => exact (List.append_nil _).symm
      | notice member racing beside =>
        rw [setWaiter_generations, generations_of_minor beside.minor, List.append_nil]
      | report member unreported =>
        exact (setWaiter_generations ..).trans (List.append_nil _).symm
      | apart detached apart =>
        rw [apart.servers, generations_of_minor apart.minor, List.append_nil]
      | destroy =>
        rw [generations_of_minor minor_destroy, List.append_nil]
        rfl

lemma Run.generation_lt (run : Run (fresh settings collaborators) s seen) :
    ∀ server ∈ s.servers, server.generation < s.nextGeneration := by
  intro server member
  apply run.increasing.1
  rw [← run.servers]
  exact List.mem_map_of_mem member

lemma Run.server_eq {server other : Server} (run : Run (fresh settings collaborators) s seen)
    (member : server ∈ s.servers) (also : other ∈ s.servers)
    (same : server.generation = other.generation) : server = other := by
  refine List.inj_on_of_nodup_map ?_ member also same
  rw [run.servers]
  exact run.increasing.2.imp Nat.ne_of_lt

/-- Until the loop is destroyed, the exits that wait are those of the session that is expected to
end. -/
lemma Run.awaited (run : Run (fresh settings collaborators) s seen)
    (alive : s.phase ≠ .destroyed) : Awaited s.servers s.expected s.exits :=
  run.keeps_alive (P := fun s _ => Awaited s.servers s.expected s.exits)
    (.nobody (by simp [fresh]))
    (fun {s t _ _ _} run awaited move alive => by
      cases move with
      | turn own turn => exact turn.awaited run.coherent run.generation_lt awaited
      | enter | refuse | hangUp => exact awaited
      | @notice server _ _ member racing beside =>
        exact awaited.notice member racing
      | report member unreported => exact awaited.report member unreported
      | apart detached apart =>
        have same : t.expected = s.expected := by
          simp only [expected, apart.phase, apart.session]
        rw [same, apart.servers, apart.exits]
        exact awaited
      | destroy => exact absurd rfl alive) alive

/-- Whether the waiter of the server with this generation has reported. -/
def HasReported (s : System) (generation : Nat) : Prop :=
  ∃ server ∈ s.servers, server.generation = generation ∧ server.waiter = .reported

/-- A turn leaves alone what the waiters have seen. -/
lemma Turn.hasReported (turn : s.Turn t more) (generation : Nat) :
    t.HasReported generation ↔ s.HasReported generation := by
  cases turn with
  | startServer => simp [HasReported, addServer]
  | fail phase failure => cases failure <;> exact Iff.rfl
  | beginVacant phase quiet session occasion =>
    obtain ⟨_, _, _, finished⟩ := occasion.finishStop_fst
    rw [finished]
    exact Iff.rfl
  | @beginStop u purpose before x now phase quiet session occasion =>
    obtain ⟨_, rfl⟩ := occasion.fst
    simp only [HasReported, List.mem_map, exists_exists_and_eq_and]
    refine exists_congr fun server => and_congr_right fun _ => ?_
    split <;> exact Iff.rfl
  | @tearDown x next phase session =>
    obtain ⟨_, _, resumed⟩ := s.tearDown_fst next
    rw [resumed]
    exact Iff.rfl
  | _ => exact Iff.rfl

lemma Run.hasReported_setWaiter {server : Server} (waiter : Waiter)
    (run : Run (fresh settings collaborators) s seen) (member : server ∈ s.servers)
    (unreported : server.waiter ≠ .reported) (generation : Nat) :
    (s.setWaiter server.generation waiter).HasReported generation ↔
      s.HasReported generation ∨ generation = server.generation ∧ waiter = .reported := by
  constructor
  · rintro ⟨_, changed, rfl, reported⟩
    obtain ⟨other, also, rfl⟩ := List.mem_map.mp changed
    split at reported
    case isTrue same => exact .inr ⟨by simp [same], reported⟩
    case isFalse different => exact .inl ⟨other, also, by simp [different], reported⟩
  · rintro (⟨other, also, rfl, reported⟩ | ⟨rfl, rfl⟩)
    · have different : other.generation ≠ server.generation := by
        intro same
        rw [run.server_eq also member same] at reported
        exact unreported reported
      exact ⟨_, List.mem_map_of_mem also, by simp [different], by simp [different, reported]⟩
    · exact ⟨_, List.mem_map_of_mem member, by simp, by simp⟩

/-- A move reports the end of at most one server, which has not been reported before. -/
lemma Move.reports {i : Input} (move : s.Move i t more)
    (run : Run (fresh settings collaborators) s seen) :
    (RaceControl.reports more = [] ∧
      ∀ generation, t.HasReported generation ↔ s.HasReported generation) ∨
    ∃ new, ¬s.HasReported new ∧ RaceControl.reports more = [new] ∧
      ∀ generation, t.HasReported generation ↔ s.HasReported generation ∨ generation = new := by
  cases move with
  | turn own turn => exact .inl ⟨turn.reports, turn.hasReported⟩
  | enter | refuse | hangUp => exact .inl ⟨rfl, fun _ => Iff.rfl⟩
  | notice member racing beside quiet =>
    refine .inl ⟨reports_of_undelivered quiet, fun generation => ?_⟩
    simpa using run.hasReported_setWaiter .draining member (by simp [racing]) generation
  | @report server result member unreported =>
    refine .inr ⟨server.generation, ?_, rfl, fun generation => ?_⟩
    · rintro ⟨other, also, same, reported⟩
      rw [run.server_eq also member same] at reported
      exact unreported reported
    · exact (run.hasReported_setWaiter .reported member unreported generation).trans (by simp)
  | apart detached apart =>
    refine .inl ⟨reports_of_undelivered apart.quiet, fun generation => ?_⟩
    rw [HasReported, HasReported, apart.servers]
  | destroy => exact .inl ⟨reports_eq_nil (by simp [System.destroy]), fun _ => Iff.rfl⟩

/-- A server has reported its end exactly if its waiter has, and then once. -/
lemma Run.reports (run : Run (fresh settings collaborators) s seen) :
    (reports seen).Nodup ∧
      ∀ generation, generation ∈ reports seen ↔ s.HasReported generation := by
  refine run.keeps_moves (P := fun s seen => (RaceControl.reports seen).Nodup ∧
    ∀ generation, generation ∈ RaceControl.reports seen ↔ s.HasReported generation)
    ⟨.nil, by simp [RaceControl.reports, HasReported, fresh]⟩ ?_
  rintro s t seen more i run ⟨once, reported⟩ move
  rw [reports_append]
  rcases move.reports run with ⟨none, same⟩ | ⟨new, fresh, one, changed⟩
  · rw [none, List.append_nil]
    exact ⟨once, fun generation => (reported generation).trans (same generation).symm⟩
  · rw [one]
    refine ⟨List.nodup_append.mpr ⟨once, List.nodup_singleton _, ?_⟩, fun generation => ?_⟩
    · rintro generation before _ last rfl
      rw [List.mem_singleton.mp last] at before
      exact fresh ((reported _).mp before)
    · rw [List.mem_append, reported, changed, List.mem_singleton]

/-- The sessions that are launched are those of servers that have been started, in their order. -/
lemma Run.launches_sublist (run : Run (fresh settings collaborators) s seen) :
    (launches seen).Sublist (generations seen) := by
  obtain ⟨-, part, ⟨whole, told⟩, underway⟩ := run.underway
  obtain ⟨last, begun⟩ := underway.isPrefix
  have chapters : ∀ chapters : List Chapter,
      (launches (chapters.flatMap (·.milestones collaborators.hasWrapper))).Sublist
        (generations (chapters.flatMap (·.milestones collaborators.hasWrapper))) := by
    intro chapters
    induction chapters with
    | nil => exact .refl _
    | cons chapter rest ih =>
      rw [List.flatMap_cons, launches_append, generations_append]
      exact (chapter.launches_sublist (List.prefix_refl _)).append ih
  have both := (chapters whole).append (last.launches_sublist begun)
  rw [← launches_append, ← generations_append, ← told] at both
  rwa [launches, milestones, filterMap_filter_told
      (by rintro ⟨⟩ <;> simp [Effect.isMilestone, launch?]),
    generations, filterMap_filter_told (by rintro ⟨⟩ <;> simp [Effect.isMilestone, generation?])]
    at both

/-- Beside the loop nothing is shown of the ends of servers but the reports of their waiters. -/
lemma Run.heeds {i : Input} {effect : Effect} (run : Run (fresh settings collaborators) s seen)
    (step : s.step? i = some (t, more)) (shown : effect ∈ more)
    (concerns : effect.concernsEnd = true) :
    (∃ generation, effect = .exitQueued generation) ∨ Heeds s effect := by
  rcases step?_cases run.coherent step with turn | beside | ⟨-, -, destroyed⟩
  · exact .inr (turn.heeds shown concerns)
  · cases beside.aside effect shown with
    | exitQueued => exact .inl ⟨_, rfl⟩
    | _ => contradiction
  · have refusals : s.destroy.2 = more := congrArg Prod.snd destroyed
    rw [← refusals] at shown
    obtain ⟨ticket, -, rfl⟩ := List.mem_map.mp shown
    contradiction

/-- The loop never comes to look at the exit of another server than that of its session. -/
lemma Run.current {exit : Exit} {exits : List Exit} {next : Resumption}
    (run : Run (fresh settings collaborators) s seen) (attends : s.Attends next)
    (queue : s.exits = exit :: exits) :
    ∃ x, s.session = some x ∧ x.generation = exit.generation := by
  have alive : s.phase ≠ .destroyed := by
    cases attends with
    | waiting phase | stopping phase => simp [phase]
  have awaited := run.awaited alive
  rw [attends.expected, queue] at awaited
  generalize current : s.session = session at awaited
  cases awaited with
  | @ended x result => exact ⟨x, rfl, rfl⟩

/-- What can be told of the ends of servers, given all that was seen of a run. -/
structure Attributed (s : System) (seen : List Effect) : Prop where
  /-- Where the loop waits, at most one exit does, and it is that of the session. -/
  waiting : s.phase.awaits = true → s.exits.length ≤ 1 ∧
    ∀ exit ∈ s.exits, ∃ x, s.session = some x ∧ x.generation = exit.generation
  /-- Without a session no exit waits, and none is still to come from any server. -/
  vacant : s.phase.awaits = true → s.session = none → s.exits = [] ∧
    ∀ server ∈ s.servers, server.waiter = .reported ∧
      ∀ event, s.step? (.waiterStep server.generation event) = none
  /-- Every process that was started has its waiter, which reports its end once. -/
  servers : s.servers.map (·.generation) = generations seen
  reports : (reports seen).Nodup ∧
    ∀ generation, generation ∈ reports seen ↔ s.HasReported generation
  launches : (launches seen).Pairwise (· < ·)
  /-- No exit has been found to be that of an earlier session. -/
  current : ∀ generation, .exitHandled generation true ∉ seen
  /-- Only the server of the session is killed, and while no exit waits. -/
  killed : ∀ {i t more pid}, s.step? i = some (t, more) → .serverKilled pid ∈ more →
    s.exits = [] ∧ ∃ x, s.session = some x ∧ x.pid = pid ∧
      ∃ server ∈ s.servers, server.generation = x.generation ∧ server.pid = pid ∧
        server.waiter ≠ .reported

lemma Run.vacant (run : Run (fresh settings collaborators) s seen) (awaits : s.phase.awaits = true)
    (session : s.session = .none) :
    s.exits = [] ∧ ∀ server ∈ s.servers, server.waiter = .reported := by
  have alive : s.phase ≠ .destroyed := by
    rintro destroyed
    simp [destroyed, Phase.awaits] at awaits
  have awaited := run.awaited alive
  rw [expected_of_awaits awaits, session] at awaited
  generalize s.exits = exits at awaited ⊢
  cases awaited with
  | nobody all => exact ⟨rfl, all⟩

theorem Run.attributed (run : Run (fresh settings collaborators) s seen) : s.Attributed seen where
  waiting awaits := by
    have alive : s.phase ≠ .destroyed := by
      rintro destroyed
      simp [destroyed, Phase.awaits] at awaits
    have awaited := run.awaited alive
    rw [expected_of_awaits awaits] at awaited
    generalize s.session = session at awaited ⊢
    generalize s.exits = exits at awaited ⊢
    cases awaited with
    | nobody | running => simp
    | ended => simp
  vacant awaits session := by
    obtain ⟨quiet, all⟩ := run.vacant awaits session
    exact ⟨quiet, fun server member => ⟨all server member,
      stepWaiter_eq_none fun other also _ => all other also⟩⟩
  servers := run.servers
  reports := run.reports
  launches := run.increasing.2.sublist run.launches_sublist
  current generation shown := by
    refine run.forall_shown (p := fun effect => effect ≠ .exitHandled generation true) ?_ _ shown rfl
    rintro s t seen more i run step _ shown rfl
    rcases run.heeds step shown rfl with ⟨_, _⟩ | heeds
    · contradiction
    · cases heeds with
      | stale attends queue stale =>
        obtain ⟨x, session, same⟩ := run.current attends queue
        exact stale x session same
  killed {i t more pid} step shown := by
    rcases run.heeds step shown rfl with ⟨_, _⟩ | heeds
    · contradiction
    · cases heeds with
      | @killed stop phase quiet =>
        have awaited := run.awaited (by simp [phase])
        have fits := run.coherent.phase
        simp only [PhaseFits, phase] at fits
        obtain ⟨-, e, n, occupied, -⟩ := fits
        simp only [expected, phase, occupied.session, quiet] at awaited
        refine ⟨quiet, _, occupied.session, rfl, ?_⟩
        cases awaited with
        | running one rest =>
          obtain ⟨server, member, generation, pid⟩ := one
          exact ⟨server, member, generation, pid, fun reported =>
            (rest server member).mp reported generation⟩

/-- The server has ended while a stop waits for it: its exit is there before any kill. -/
theorem attributed_queued :
    ∃ s seen, Run (fresh .standard ⟨false, false⟩) s seen ∧ s.Attributed seen ∧
      s.phase = .stopping ⟨.stop 2, ⟨1, 7⟩, 0, false⟩ ∧ s.exits = [⟨1, .ended (.code 0)⟩] := by
  obtain ⟨⟨s, seen⟩, steps, queued⟩ : ∃ out ∈ (fresh .standard ⟨false, false⟩).steps?
      (launchInputs ⟨1, .start ⟨"race"⟩ (.direct ":9000" 9001)⟩ ++
        [.submit ⟨2, .stop⟩, .poll 0 (.ok ()), .waiterStep 1 (.ended (.ended (.code 0)))]),
      out.1.phase = .stopping ⟨.stop 2, ⟨1, 7⟩, 0, false⟩ ∧
        out.1.exits = [⟨1, .ended (.code 0)⟩] := by
    refine ⟨_, rfl, rfl, rfl⟩
  have run := Run.none.steps steps
  exact ⟨s, seen, run, run.attributed, queued⟩

end System
end RaceControl
