import Mathlib.Data.List.Nodup
import RaceControl.Proofs.Supervisor.Integrity

/-!
Requests are taken in the order in which they entered the queue, and each is answered before the
next one is taken.
-/
namespace RaceControl

/-- Whether an effect takes a request or answers one. -/
def Effect.isDealing : Effect → Bool
  | .took _ | .answered .. => true
  | _ => false

def dealings (seen : List Effect) : List Effect := seen.filter Effect.isDealing

lemma dealings_append (seen more : List Effect) :
    dealings (seen ++ more) = dealings seen ++ dealings more :=
  List.filter_append ..

lemma dealings_eq_nil {more : List Effect} (quiet : ∀ effect ∈ more, effect.isDealing = false) :
    dealings more = [] :=
  List.filter_eq_nil_iff.mpr fun effect shown => by simp [quiet effect shown]

/-- A request with the answer to it. -/
structure Exchange where
  request : Request
  result : Except SupervisorError Unit
  isHeard : Bool

def Exchange.dealings (exchange : Exchange) : List Effect :=
  [.took exchange.request, .answered exchange.request.ticket exchange.result exchange.isHeard]

/-- The request that a session is stopped for. -/
def Purpose.request? : Purpose → Option Request
  | .stop ticket => some ⟨ticket, .stop⟩
  | .relaunch ticket event addressing => some ⟨ticket, .start event addressing⟩
  | .shutdown => none

@[simp] lemma Request.purpose_request? (request : Request) :
    request.purpose.request? = some request := by
  obtain ⟨ticket, demand⟩ := request
  cases demand <;> rfl

def Resumption.request? : Resumption → Option Request
  | .wait => none
  | .finishStop purpose => purpose.request?
  | .keepStopping stop => stop.purpose.request?

/-- The request that the loop works on. -/
def Phase.request? : Phase → Option Request
  | .launching l => some ⟨l.ticket, .start l.event l.addressing⟩
  | .stopping stop => stop.purpose.request?
  | .tearingDown _ next => next.request?
  | .waiting | .finished | .destroyed => none

@[simp] lemma Phase.request?_waiting : Phase.waiting.request? = none := rfl

/-- What is known of requests: the one that is worked on and those that wait, whose callers listen,
what has been dealt, which requests have entered and whose callers have left. -/
structure Books (current : Option Request) (requests : List Request) (listening : List Nat)
    (dealt : List Effect) (entered : List Request) (left : List Nat) : Prop where
  /-- What has entered has been answered, one request after another, or is worked on, or waits. -/
  order : ∃ exchanges : List Exchange,
    dealt = exchanges.flatMap Exchange.dealings ++ current.toList.map .took ∧
    entered = exchanges.map (·.request) ++ current.toList ++ requests
  distinct : (entered.map (·.ticket)).Nodup
  listening : ∀ ticket, ticket ∈ listening ↔
    ticket ∈ (current.toList ++ requests).map (·.ticket) ∧ ticket ∉ left
  left : ∀ ticket ∈ left, ticket ∈ entered.map (·.ticket)

namespace Books
variable {current : Option Request} {request : Request} {requests entered : List Request}
  {listening left : List Nat} {dealt : List Effect}

lemma take (books : Books none (request :: requests) listening dealt entered left) :
    Books (some request) requests listening (dealt ++ [.took request]) entered left := by
  obtain ⟨exchanges, rfl, rfl⟩ := books.order
  exact ⟨⟨exchanges, by simp, by simp⟩, books.distinct, books.listening, books.left⟩

/-- The tickets of requests that have not been answered yet are different, too. -/
lemma pending_distinct (books : Books current requests listening dealt entered left) :
    ((current.toList ++ requests).map (·.ticket)).Nodup := by
  obtain ⟨exchanges, -, rfl⟩ := books.order
  have distinct := books.distinct
  rw [List.append_assoc, List.map_append] at distinct
  exact distinct.of_append_right

lemma answer (books : Books (some request) requests listening dealt entered left)
    (result : Except SupervisorError Unit) (isHeard : Bool) :
    Books none requests (listening.filter (· != request.ticket))
      (dealt ++ [.answered request.ticket result isHeard]) entered left := by
  have distinct := books.pending_distinct
  have listening := books.listening
  obtain ⟨exchanges, rfl, rfl⟩ := books.order
  refine ⟨⟨exchanges ++ [⟨request, result, isHeard⟩], by simp [Exchange.dealings], by simp⟩,
    books.distinct, fun ticket => ?_, books.left⟩
  simp only [Option.toList_some, List.singleton_append, List.map_cons, List.nodup_cons,
    List.mem_cons] at distinct listening
  simp only [List.mem_filter, listening, Option.toList_none, List.nil_append, bne_iff_ne]
  constructor
  · rintro ⟨⟨same | waits, stays⟩, other⟩
    · exact absurd same other
    · exact ⟨waits, stays⟩
  · rintro ⟨waits, stays⟩
    refine ⟨⟨.inr waits, stays⟩, ?_⟩
    rintro rfl
    exact distinct.1 waits

lemma enter (books : Books current requests listening dealt entered left)
    (new : ∀ earlier ∈ entered, earlier.ticket ≠ request.ticket) :
    Books current (requests ++ [request]) (listening ++ [request.ticket]) dealt
      (entered ++ [request]) left := by
  have unknown : request.ticket ∉ entered.map (·.ticket) := by
    intro known
    obtain ⟨earlier, member, same⟩ := List.mem_map.mp known
    exact new earlier member same
  refine ⟨?_, ?_, fun ticket => ?_, fun ticket gone => ?_⟩
  · obtain ⟨exchanges, rfl, rfl⟩ := books.order
    exact ⟨exchanges, rfl, by simp⟩
  · rw [List.map_append]
    refine List.nodup_append.mpr ⟨books.distinct, List.nodup_singleton _, ?_⟩
    rintro ticket known _ last rfl
    rw [List.mem_singleton.mp last] at known
    exact unknown known
  · have longer : ticket ∈ (current.toList ++ (requests ++ [request])).map (·.ticket) ↔
        ticket ∈ (current.toList ++ requests).map (·.ticket) ∨ ticket = request.ticket := by
      rw [← List.append_assoc, List.map_append, List.mem_append]
      exact or_congr_right List.mem_singleton
    rw [List.mem_append, books.listening, longer, List.mem_singleton]
    constructor
    · rintro (⟨waits, stays⟩ | rfl)
      · exact ⟨.inl waits, stays⟩
      · exact ⟨.inr rfl, fun gone => unknown (books.left _ gone)⟩
    · rintro ⟨waits | rfl, stays⟩
      · exact .inl ⟨waits, stays⟩
      · exact .inr rfl
  · rw [List.map_append]
    exact List.mem_append_left _ (books.left ticket gone)

/-- A caller who does not listen any more can leave without being noticed. -/
lemma leave (books : Books current requests listening dealt entered left) (ticket : Nat) :
    Books current requests (listening.filter (· != ticket)) dealt entered
      (left ++ if ticket ∈ listening then [ticket] else []) := by
  have known : ∀ ticket ∈ listening, ticket ∈ entered.map (·.ticket) := by
    intro ticket listens
    have waits := ((books.listening ticket).mp listens).1
    obtain ⟨exchanges, -, rfl⟩ := books.order
    rw [List.append_assoc, List.map_append]
    exact List.mem_append_right _ waits
  refine ⟨books.order, books.distinct, fun other => ?_, fun other gone => ?_⟩
  · simp only [List.mem_filter, books.listening, bne_iff_ne, List.mem_append,
      List.mem_ite_nil_right, List.mem_singleton]
    constructor
    · rintro ⟨⟨waits, stays⟩, different⟩
      exact ⟨waits, fun gone => gone.elim stays fun gone => different gone.2⟩
    · rintro ⟨waits, stays⟩
      refine ⟨⟨waits, fun gone => stays (.inl gone)⟩, ?_⟩
      rintro rfl
      exact stays (.inr ⟨⟨waits, fun gone => stays (.inl gone)⟩, rfl⟩)
  · rcases List.mem_append.mp gone with gone | gone
    · exact books.left other gone
    · split at gone
      case isTrue listens =>
        rw [List.mem_singleton.mp gone]
        exact known ticket listens
      case isFalse => contradiction

end Books

namespace System
variable {s t u : System} {more : List Effect} {i : Input}

/-- The requests that have not been answered yet: the one that the loop works on, and those that
wait. -/
def pending (s : System) : List Request := s.phase.request?.toList ++ s.requests

/-- A result of the loop, and not one that a call gives without it. -/
def IsReply (result : Except SupervisorError Unit) : Prop :=
  result ≠ .error .loopClosed ∧ result ≠ .error .nothingToRestart

lemma isReply_ok : IsReply (.ok ()) := by simp [IsReply]

/-- What a turn does with requests. -/
inductive Deals (s t : System) (more : List Effect) : Prop
  | goesOn : dealings more = [] → t.phase.request? = s.phase.request? →
    t.requests = s.requests → t.listening = s.listening → Deals s t more
  | takes {request} : s.phase = .waiting → s.exits = [] → s.requests = request :: t.requests →
    t.phase.request? = some request → dealings more = [.took request] →
    t.listening = s.listening → Deals s t more
  | answers {request result} : s.phase.request? = some request → t.phase = .waiting →
    t.requests = s.requests → IsReply result →
    dealings more = [.answered request.ticket result (s.listening.contains request.ticket)] →
    t.listening = s.listening.filter (· != request.ticket) → Deals s t more
  | serves {request result} : s.phase = .waiting → s.exits = [] →
    s.requests = request :: t.requests → t.phase = .waiting → IsReply result →
    dealings more = [.took request,
      .answered request.ticket result (s.listening.contains request.ticket)] →
    t.listening = s.listening.filter (· != request.ticket) → Deals s t more

lemma dealings_exitWarning (exit : Exit) : dealings (exitWarning exit) = [] :=
  dealings_eq_nil (forall_exitWarning rfl)

lemma LaunchFailure.isReply {env : Surroundings} {l : Launch} {cleanup : List Effect}
    {cause : SupervisorError} (failure : LaunchFailure s env l u cleanup cause) :
    IsReply (.error cause) := by
  cases failure <;> simp [IsReply]

lemma Turn.deals (turn : s.Turn t more) : Deals s t more := by
  cases turn with
  | announce phase | findDirectory phase | loadOptions phase | openRelay phase | startServer phase
  | adopt phase | requestWrapper phase | forget phase | closeRelay phase | prune phase
  | signalled phase =>
    exact .goesOn rfl (by rw [phase]; rfl) rfl rfl
  | fail phase failure =>
    refine .answers (by rw [phase]; rfl) rfl ?_ failure.isReply ?_ rfl
    · cases failure <;> rfl
    · cases failure <;> rfl
  | auxiliary phase start =>
    have quiet := dealings_eq_nil fun effect shown => by
      cases start.outfitting effect shown <;> rfl
    exact .goesOn quiet (by rw [phase]; rfl) rfl rfl
  | activate phase =>
    exact .answers (by rw [phase]; rfl) rfl rfl isReply_ok rfl rfl
  | beginVacant phase quiet session occasion =>
    cases occasion with
    | @request request requests queue =>
      obtain ⟨ticket, demand⟩ := request
      cases demand with
      | start e addressing => exact .takes phase quiet queue rfl rfl rfl
      | stop => exact .serves phase quiet queue rfl isReply_ok rfl rfl
    | shutdown => exact .goesOn rfl (by rw [phase]; rfl) rfl rfl
  | beginStop now phase quiet session occasion =>
    cases occasion with
    | @request request requests queue =>
      refine .takes phase quiet queue request.purpose_request? ?_ rfl
      split <;> rfl
    | shutdown =>
      refine .goesOn ?_ (by rw [phase]; rfl) rfl rfl
      split <;> rfl
  | exit attends =>
    refine .goesOn ?_ ?_ rfl rfl
    · rw [dealings_append, dealings_exitWarning]
      rfl
    · cases attends with
      | waiting phase | stopping phase =>
        rw [phase]
        rfl
  | staleExit attends =>
    refine .goesOn ?_ rfl rfl rfl
    rw [dealings_append, dealings_exitWarning]
    rfl
  | kill phase =>
    exact .goesOn (dealings_eq_nil (forall_forceKill rfl fun _ => rfl)) (by rw [phase]; rfl) rfl rfl
  | @giveUp stop ticket now phase quiet late tried purpose =>
    obtain ⟨request, current, rfl⟩ :
        ∃ request, stop.purpose.request? = some request ∧ request.ticket = ticket := by
      obtain same | ⟨e, a, same⟩ := purpose
      · exact ⟨⟨ticket, .stop⟩, by rw [same]; rfl, rfl⟩
      · exact ⟨⟨ticket, .start e a⟩, by rw [same]; rfl, rfl⟩
    exact .answers (by rw [phase]; exact current) rfl rfl (by simp [IsReply]) rfl rfl
  | leave phase quiet late tried purpose =>
    refine .goesOn rfl ?_ rfl rfl
    rw [phase, Phase.request?, purpose]
    rfl
  | stopWrapper phase =>
    refine .goesOn ?_ (by rw [phase]; rfl) rfl rfl
    split <;> rfl
  | killChildren env phase =>
    exact .goesOn (dealings_eq_nil (forall_kills rfl (fun _ => rfl) fun _ _ _ => rfl))
      (by rw [phase]; rfl) rfl rfl
  | signal phase =>
    exact .goesOn (dealings_eq_nil (forall_signal rfl)) (by rw [phase]; rfl) rfl rfl
  | @tearDown x next phase session =>
    cases next with
    | wait => exact .goesOn rfl (by rw [phase]; rfl) rfl rfl
    | keepStopping stop => exact .goesOn rfl (by rw [phase]; rfl) rfl rfl
    | finishStop purpose =>
      cases purpose with
      | stop ticket =>
        exact .answers (by rw [phase]; rfl) rfl rfl isReply_ok rfl rfl
      | relaunch ticket e addressing => exact .goesOn rfl (by rw [phase]; rfl) rfl rfl
      | shutdown => exact .goesOn rfl (by rw [phase]; rfl) rfl rfl

/-- What happens around the queue of requests: it is entered, callers leave, and effects show. -/
inductive Occurrence
  | entered (request : Request)
  | left (ticket : Nat)
  | shown (effect : Effect)

def Occurrence.request? : Occurrence → Option Request
  | .entered request => some request
  | _ => none

def Occurrence.ticket? : Occurrence → Option Nat
  | .left ticket => some ticket
  | _ => none

def Occurrence.effect? : Occurrence → Option Effect
  | .shown effect => some effect
  | _ => none

/-- What of a step is not seen of its effects: a request enters, or a caller who listens leaves. -/
def noted (s : System) : Input → List Occurrence
  | .submit request => if s.phase.isOver then [] else [.entered request]
  | .hangUp ticket => if ticket ∈ s.listening then [.left ticket] else []
  | _ => []

def entered (record : List Occurrence) : List Request := record.filterMap Occurrence.request?
def left (record : List Occurrence) : List Nat := record.filterMap Occurrence.ticket?
def shown (record : List Occurrence) : List Effect := record.filterMap Occurrence.effect?

/-- A run with its record. Every call has a ticket of its own. -/
inductive Recorded (start : System) : System → List Occurrence → Prop
  | none : Recorded start start []
  | step {s t record more i} : Recorded start s record →
    (∀ request, i = .submit request → ∀ earlier ∈ entered record, earlier.ticket ≠ request.ticket) →
    s.step? i = some (t, more) → Recorded start t (record ++ s.noted i ++ more.map .shown)

section
variable (record : List Occurrence) (noted : List Occurrence) (more : List Effect)

lemma entered_append :
    entered (record ++ noted ++ more.map .shown) = entered record ++ entered noted := by
  have none : (more.map Occurrence.shown).filterMap Occurrence.request? = [] := by
    simp [List.filterMap_map, Function.comp_def, Occurrence.request?]
  simp only [entered, List.filterMap_append, none, List.append_nil]

lemma left_append : left (record ++ noted ++ more.map .shown) = left record ++ left noted := by
  have none : (more.map Occurrence.shown).filterMap Occurrence.ticket? = [] := by
    simp [List.filterMap_map, Function.comp_def, Occurrence.ticket?]
  simp only [left, List.filterMap_append, none, List.append_nil]

end

lemma shown_noted (s : System) (i : Input) : shown (s.noted i) = [] := by
  cases i with
  | submit request | hangUp ticket =>
    rw [noted]
    split <;> rfl
  | _ => rfl

lemma shown_append (record : List Occurrence) (s : System) (i : Input) (more : List Effect) :
    shown (record ++ s.noted i ++ more.map .shown) = shown record ++ more := by
  have all : (more.map Occurrence.shown).filterMap Occurrence.effect? = more := by
    simp [List.filterMap_map, Function.comp_def, Occurrence.effect?]
  have none := shown_noted s i
  simp only [shown] at none ⊢
  rw [List.filterMap_append, List.filterMap_append, none, all, List.append_nil]

lemma noted_of_isOwn (own : i.isOwn = true) : s.noted i = [] := by
  cases i with
  | proceed | poll => rfl
  | _ => contradiction

lemma noted_of_isDetached (detached : i.isDetached = true) : s.noted i = [] := by
  cases i with
  | submit | hangUp => contradiction
  | _ => rfl

variable {settings : Settings} {collaborators : Collaborators} {record : List Occurrence}

lemma Recorded.run {start : System} (recorded : Recorded start s record) :
    Run start s (shown record) := by
  induction recorded with
  | none => exact .none
  | step _ _ step ih =>
    rw [shown_append]
    exact ih.step step

lemma Deals.books {dealt : List Effect} {entered : List Request} {left : List Nat}
    (deals : Deals s t more)
    (books : Books s.phase.request? s.requests s.listening dealt entered left) :
    Books t.phase.request? t.requests t.listening (dealt ++ dealings more) entered left := by
  cases deals with
  | goesOn none current requests listening =>
    rwa [none, List.append_nil, current, requests, listening]
  | takes waiting _ queue current took listening =>
    rw [waiting, queue] at books
    rw [current, took, listening]
    exact books.take
  | answers current waiting requests _ answered listening =>
    rw [current] at books
    rw [waiting, requests, answered, listening]
    exact books.answer ..
  | serves waiting _ queue waits _ dealt listening =>
    rw [waiting, queue] at books
    rw [waits, dealt, listening, List.append_cons]
    exact books.take.answer ..

lemma Beside.dealings (beside : s.Beside t more)
    (quiet : ∀ effect ∈ more, effect.isDelivery = false) : dealings more = [] := by
  refine dealings_eq_nil fun effect shown => ?_
  have quiet := quiet effect shown
  cases beside.aside effect shown with
  | refused => contradiction
  | _ => rfl

/-- A loop that has ended by itself has no handle left through which a request could come. -/
lemma Run.isOver_eq_false {seen : List Effect} (run : Run (fresh settings collaborators) s seen)
    (alive : s.phase ≠ .destroyed) (handles : s.handles ≠ 0) : s.phase.isOver = false := by
  cases phase : s.phase with
  | finished => exact absurd (by simpa only [PhaseStems, phase] using run.stems.phase) handles
  | destroyed => exact absurd phase alive
  | waiting | launching | stopping | tearingDown => rfl

lemma Move.books {seen dealt : List Effect} {entered : List Request} {left : List Nat}
    (move : s.Move i t more) (run : Run (fresh settings collaborators) s seen)
    (alive : t.phase ≠ .destroyed)
    (new : ∀ request, i = .submit request → ∀ earlier ∈ entered, earlier.ticket ≠ request.ticket)
    (books : Books s.phase.request? s.requests s.listening dealt entered left) :
    Books t.phase.request? t.requests t.listening (dealt ++ dealings more)
      (entered ++ System.entered (s.noted i)) (left ++ System.left (s.noted i)) := by
  have unchanged (phase : t.phase = s.phase) (requests : t.requests = s.requests)
      (listening : t.listening = s.listening) (quiet : RaceControl.dealings more = [])
      (silent : s.noted i = []) :
      Books t.phase.request? t.requests t.listening (dealt ++ RaceControl.dealings more)
        (entered ++ System.entered (s.noted i)) (left ++ System.left (s.noted i)) := by
    rw [phase, requests, listening, quiet, silent]
    simpa [System.entered, System.left] using books
  cases move with
  | turn own turn =>
    rw [noted_of_isOwn own]
    simpa [System.entered, System.left] using turn.deals.books books
  | @enter request handles running =>
    have noted : s.noted (.submit request) = [.entered request] := by simp [noted, running]
    rw [noted]
    change Books _ _ _ (dealt ++ []) (entered ++ [request]) (left ++ [])
    rw [List.append_nil, List.append_nil]
    exact books.enter (new request rfl)
  | refuse handles ended =>
    rw [run.isOver_eq_false alive handles] at ended
    contradiction
  | @hangUp ticket =>
    have noted : System.entered (s.noted (.hangUp ticket)) = [] ∧
        System.left (s.noted (.hangUp ticket)) = if ticket ∈ s.listening then [ticket] else [] := by
      simp only [noted]
      split <;> exact ⟨rfl, rfl⟩
    change Books _ _ _ (dealt ++ []) _ _
    rw [noted.1, noted.2, List.append_nil, List.append_nil]
    exact books.leave ticket
  | notice member racing beside quiet => exact unchanged rfl rfl rfl (beside.dealings quiet) rfl
  | report => exact unchanged rfl rfl rfl rfl rfl
  | apart detached apart =>
    exact unchanged apart.phase apart.requests apart.listening (apart.dealings apart.quiet)
      (noted_of_isDetached detached)
  | destroy => exact absurd rfl alive

/-- Until the loop is destroyed its books are in order. -/
theorem Recorded.books (recorded : Recorded (fresh settings collaborators) s record)
    (alive : s.phase ≠ .destroyed) :
    Books s.phase.request? s.requests s.listening (dealings (shown record)) (entered record)
      (left record) := by
  induction recorded with
  | none => exact ⟨⟨[], rfl, rfl⟩, .nil, by simp [fresh, Phase.request?], by simp [left]⟩
  | @step s t record more i recorded new step ih =>
    have move := step?_move recorded.run.coherent step
    have books := ih fun destroyed => alive (move.destroyed destroyed)
    rw [shown_append, dealings_append, entered_append, left_append]
    exact move.books recorded.run alive new books

lemma mem_dealings {effect : Effect} (shown : effect ∈ more) (dealing : effect.isDealing = true) :
    effect ∈ RaceControl.dealings more :=
  List.mem_filter.mpr ⟨shown, dealing⟩

/-- An answer goes to a caller who has asked and has not been answered before. -/
lemma Deals.answered {ticket : Nat} {result : Except SupervisorError Unit} {isHeard : Bool}
    (deals : Deals s t more) (shown : .answered ticket result isHeard ∈ more) :
    ticket ∈ s.pending.map (·.ticket) ∧ isHeard = s.listening.contains ticket ∧
      IsReply result := by
  have dealing := mem_dealings shown rfl
  cases deals with
  | goesOn none | takes _ _ _ _ none => simp [none] at dealing
  | answers current waiting requests reply answered =>
    simp only [answered, List.mem_singleton, Effect.answered.injEq] at dealing
    obtain ⟨rfl, rfl, rfl⟩ := dealing
    exact ⟨by simp [pending, current], rfl, reply⟩
  | serves waiting quiet queue waits reply answered =>
    simp only [answered, List.mem_cons, reduceCtorEq, List.not_mem_nil, or_false, false_or,
      Effect.answered.injEq] at dealing
    obtain ⟨rfl, rfl, rfl⟩ := dealing
    exact ⟨by simp [pending, queue], rfl, reply⟩

lemma Move.answered {seen : List Effect} {ticket : Nat} {result : Except SupervisorError Unit}
    {isHeard : Bool} (move : s.Move i t more) (run : Run (fresh settings collaborators) s seen)
    (alive : t.phase ≠ .destroyed) (shown : .answered ticket result isHeard ∈ more) :
    ticket ∈ s.pending.map (·.ticket) ∧ isHeard = s.listening.contains ticket ∧
      IsReply result := by
  cases move with
  | turn own turn => exact turn.deals.answered shown
  | enter | hangUp | report => simp at shown
  | refuse handles ended =>
    rw [run.isOver_eq_false alive handles] at ended
    contradiction
  | notice member racing beside quiet => simpa using quiet _ shown
  | apart detached apart => simpa using apart.quiet _ shown
  | destroy => exact absurd rfl alive

/-- No request is taken while an exit waits. -/
lemma Run.quiet_of_took {seen : List Effect} {request : Request}
    (run : Run (fresh settings collaborators) s seen) (step : s.step? i = some (t, more))
    (took : .took request ∈ more) : s.exits = [] := by
  rcases step?_cases run.coherent step with turn | beside | ⟨-, -, destroyed⟩
  · have dealing := mem_dealings took rfl
    cases turn.deals with
    | goesOn none => simp [none] at dealing
    | takes _ quiet => exact quiet
    | answers current waiting requests other answered => simp [answered] at dealing
    | serves _ quiet => exact quiet
  · cases beside.aside _ took
  · have refusals : s.destroy.2 = more := congrArg Prod.snd destroyed
    rw [← refusals] at took
    simp [System.destroy] at took

/-- The loop is about to end, or has ended, because all handles are gone. -/
def IsClosing (s : System) : Prop :=
  match s.phase with
  | .stopping stop => stop.purpose = .shutdown
  | .tearingDown _ next => next = .finishStop .shutdown
  | .finished => True
  | _ => False

lemma Turn.isClosing (turn : s.Turn t more) (coherent : s.Coherent) (closing : t.IsClosing) :
    s.IsClosing ∧ t.requests = s.requests ∨ t.requests = [] := by
  cases turn with
  | fail | activate | giveUp => exact closing.elim
  | announce | findDirectory | loadOptions | openRelay | startServer | adopt | requestWrapper
  | auxiliary => exact closing.elim
  | beginVacant phase quiet session occasion =>
    cases occasion with
    | @request request requests queue =>
      obtain ⟨ticket, demand⟩ := request
      cases demand <;> exact closing.elim
    | shutdown none => exact .inr none
  | beginStop now phase quiet session occasion =>
    cases occasion with
    | @request request requests queue =>
      obtain ⟨ticket, demand⟩ := request
      cases demand <;> cases closing
    | shutdown none => exact .inr none
  | exit attends =>
    cases attends with
    | waiting phase => cases closing
    | stopping phase =>
      refine .inl ⟨?_, rfl⟩
      simp only [IsClosing] at closing
      simpa only [IsClosing, phase, Resumption.finishStop.injEq] using closing
  | staleExit => exact .inl ⟨closing, rfl⟩
  | kill phase | forget phase | closeRelay phase | stopWrapper phase | killChildren env phase
  | prune phase | signal phase | signalled phase =>
    exact .inl ⟨by simpa only [IsClosing, phase] using closing, rfl⟩
  | leave phase quiet late tried purpose =>
    exact .inl ⟨by simpa only [IsClosing, phase] using purpose, rfl⟩
  | @tearDown x next phase session =>
    cases next with
    | wait => exact closing.elim
    | keepStopping =>
      have fits := coherent.phase
      simp only [PhaseFits, phase] at fits
      exact fits.2.2.elim
    | finishStop purpose =>
      cases purpose with
      | stop | relaunch => exact closing.elim
      | shutdown => exact .inl ⟨by simp only [IsClosing, phase], rfl⟩

lemma Run.handles_of_isClosing {seen : List Effect}
    (run : Run (fresh settings collaborators) s seen) (closing : s.IsClosing) : s.handles = 0 := by
  have stems := run.stems.phase
  cases phase : s.phase with
  | stopping stop =>
    simp only [IsClosing, phase] at closing
    simpa only [PhaseStems, phase, closing, Resumption.Due, Purpose.Due] using stems
  | tearingDown stage next =>
    simp only [IsClosing, phase] at closing
    simpa only [PhaseStems, phase, closing, Resumption.Due, Purpose.Due] using stems
  | finished => simpa only [PhaseStems, phase] using stems
  | waiting | launching | destroyed => simp only [IsClosing, phase] at closing

/-- A loop that is about to end has left no request behind, and none can come any more. -/
lemma Run.requests_of_isClosing {seen : List Effect}
    (run : Run (fresh settings collaborators) s seen) (closing : s.IsClosing) :
    s.requests = [] := by
  refine run.keeps_moves (P := fun s _ => s.IsClosing → s.requests = []) (fun _ => rfl) ?_ closing
  intro s t seen more i run kept move closing
  have unchanged (phase : t.phase = s.phase) (requests : t.requests = s.requests) :
      t.requests = [] := by
    rw [requests]
    exact kept (by simpa only [IsClosing, phase] using closing)
  cases move with
  | turn own turn =>
    rcases turn.isClosing run.coherent closing with ⟨closing, same⟩ | none
    · exact same.trans (kept closing)
    · exact none
  | enter handles running => exact absurd (run.handles_of_isClosing closing) handles
  | refuse | hangUp | notice | report => exact unchanged rfl rfl
  | apart detached apart => exact unchanged apart.phase apart.requests
  | destroy => exact closing.elim

end System
end RaceControl
