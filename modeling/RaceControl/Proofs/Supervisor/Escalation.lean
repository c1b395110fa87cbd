import RaceControl.Proofs.Supervisor.Partings

/-!
The timetable of a stop. A call that stops a session cancels it first. Then it checks, as often as
the loop is polled, whether the exit of the server is there, whether the grace period is over and
whether the time limit has passed, in this order.
-/
namespace RaceControl

/-- Whether an effect tells how a call goes that stops a session. -/
def Effect.isVerdict : Effect → Bool
  | .cancelled _ | .serverKilled _ | .answered .. => true
  | .logged (.killFailed _) | .logged (.stopFailed _) | .logged (.shutdownFailed _) => true
  | _ => false

/-- Whether an effect can be the result of such a call. -/
def Effect.isResult : Effect → Bool
  | .answered .. | .logged (.shutdownFailed _) => true
  | _ => false

def verdicts (seen : List Effect) : List Effect := seen.filter Effect.isVerdict

lemma verdicts_append (seen more : List Effect) :
    verdicts (seen ++ more) = verdicts seen ++ verdicts more :=
  List.filter_append ..

lemma verdicts_eq_nil {more : List Effect} (none : ∀ effect ∈ more, effect.isVerdict = false) :
    verdicts more = [] :=
  List.filter_eq_nil_iff.mpr fun effect shown => by simp [none effect shown]

lemma mem_verdicts {seen : List Effect} {effect : Effect} (told : effect.isVerdict = true) :
    effect ∈ verdicts seen ↔ effect ∈ seen := by
  simp [verdicts, told]

namespace Purpose

/-- Where the loop goes on once the call has a result. -/
def place : Purpose → Except SupervisorError Unit → Phase
  | .relaunch ticket event addressing, .ok () => .launching ⟨ticket, event, addressing, .announce⟩
  | .stop _, _ | .relaunch .., .error _ => .waiting
  | .shutdown, _ => .finished

/-- What shows the result of the call. -/
def closing (isHeard : Bool) : Purpose → Except SupervisorError Unit → List Effect
  | .stop ticket, .ok () => [.answered ticket (.ok ()) isHeard]
  | .relaunch .., .ok () | .shutdown, .ok () => []
  | .stop ticket, .error e | .relaunch ticket _ _, .error e =>
    [.logged (.stopFailed e), .answered ticket (.error e) isHeard]
  | .shutdown, .error e => [.logged (.stopFailed e), .logged (.shutdownFailed e)]

/-- A call that stops a session has returned a result, after all that it has `told`. Before a launch
and before the end of the loop a success is told by what the loop goes on with. -/
def Returns (purpose : Purpose) (s : System) (told : List Effect)
    (result : Except SupervisorError Unit) : Prop :=
  s.phase = purpose.place result ∧
    match purpose, result with
    | .stop ticket, result => ∃ isHeard, .answered ticket result isHeard ∈ told
    | .relaunch .., .ok () => True
    | .relaunch ticket _ _, .error e => ∃ isHeard, .answered ticket (.error e) isHeard ∈ told
    | .shutdown, .ok () => ∀ e, .logged (.shutdownFailed e) ∉ told
    | .shutdown, .error e => .logged (.shutdownFailed e) ∈ told

lemma place_ne_stopping (purpose : Purpose) (result : Except SupervisorError Unit) (stop : Stop) :
    purpose.place result ≠ .stopping stop := by
  cases purpose <;> cases result <;> simp [place]

lemma place_ne_tearingDown (purpose : Purpose) (result : Except SupervisorError Unit)
    (stage : TeardownStage) (next : Resumption) :
    purpose.place result ≠ .tearingDown stage next := by
  cases purpose <;> cases result <;> simp [place]

/-- What has been told decides what has been returned. -/
lemma returns_iff {purpose : Purpose} {s : System} {told opening : List Effect} {isHeard : Bool}
    {result other : Except SupervisorError Unit} (phase : s.phase = purpose.place result)
    (record : verdicts told = opening ++ purpose.closing isHeard result)
    (quiet : ∀ effect ∈ opening, effect.isResult = false) :
    purpose.Returns s told other ↔ other = result := by
  have shown {effect : Effect} (concludes : effect.isResult = true)
      (verdict : effect.isVerdict = true) :
      effect ∈ told ↔ effect ∈ purpose.closing isHeard result := by
    rw [← mem_verdicts verdict, record, List.mem_append]
    apply or_iff_right
    intro early
    simp [quiet effect early] at concludes
  have answered (ticket : Nat) (given : Except SupervisorError Unit) (heard : Bool) :=
    @shown (.answered ticket given heard) rfl rfl
  have failed (e : SupervisorError) := @shown (.logged (.shutdownFailed e)) rfl rfl
  cases purpose with
  | stop ticket =>
    cases result <;> cases other <;> simp [Returns, phase, place, closing, answered]
  | relaunch ticket event addressing =>
    cases result <;> cases other <;> simp [Returns, phase, place, closing, answered]
  | shutdown =>
    cases result <;> cases other <;> simp [Returns, phase, place, closing, failed]

end Purpose

namespace System
variable {settings : Settings} {collaborators : Collaborators} {start s t u : System}
  {seen more before told : List Effect} {i : Input} {x : Session} {purpose : Purpose}
  {since grace limit now : Nat} {kill : Except String Unit}

/-- One check of a call that stops a session, with what comes of it. -/
structure Check where
  before : System
  now : Nat
  /-- What a forced kill would give. -/
  kill : Except String Unit
  after : System
  shown : List Effect

/-- A call that stops a session, from the poll at `since` that begins it on: its checks, and what
the loop has shown. A check that finds nothing to do leaves everything as it is. -/
inductive Halt (start : System) (since : Nat) : System → List Check → List Effect → Prop
  | begin {s : System} {kill : Except String Unit} {more : List Effect} :
    start.step? (.poll since kill) = some (s, more) → Halt start since s [] more
  | check {s t : System} {stop : Stop} {checks : List Check} {now : Nat} {kill : Except String Unit}
    {told more : List Effect} : Halt start since s checks told → s.phase = .stopping stop →
    (s.step? (.poll now kill)).getD (s, []) = (t, more) →
    Halt start since t (checks ++ [⟨s, now, kill, t, more⟩]) (told ++ more)
  | tearDown {s t : System} {stage : TeardownStage} {next : Resumption} {env : Surroundings}
    {checks : List Check} {told more : List Effect} : Halt start since s checks told →
    s.phase = .tearingDown stage next → s.step? (.proceed env) = some (t, more) →
    Halt start since t checks (told ++ more)
  | beside {s t : System} {i : Input} {checks : List Check} {told more : List Effect} :
    Halt start since s checks told → i.isOwn = false → i ≠ .destroy → s.step? i = some (t, more) →
    Halt start since t checks told

/-- Whether a property holds of each check, given those before it. -/
def InTurn (P : List Check → Check → Prop) (checks : List Check) : Prop :=
  ∀ earlier check later, checks = earlier ++ check :: later → P earlier check

/-- An element is the last one, or stands among those before it. -/
lemma append_singleton_eq {α : Type} {before earlier later : List α} {last a : α}
    (whole : before ++ [last] = earlier ++ a :: later) :
    (later = [] ∧ earlier = before ∧ a = last) ∨ ∃ rest, before = earlier ++ a :: rest := by
  obtain rfl | ⟨rest, final, rfl⟩ := List.eq_nil_or_concat later
  · obtain ⟨rfl, rfl⟩ := List.append_singleton_inj.mp whole
    exact .inl ⟨rfl, rfl, rfl⟩
  · rw [List.concat_eq_append, ← List.cons_append, ← List.append_assoc] at whole
    exact .inr ⟨rest, (List.append_singleton_inj.mp whole).1⟩

section
variable {P Q : List Check → Check → Prop} {checks earlier : List Check} {check : Check}

lemma inTurn_nil : InTurn P [] := by
  intro earlier check later whole
  simp at whole

lemma inTurn_concat : InTurn P (checks ++ [check]) ↔ InTurn P checks ∧ P checks check := by
  constructor
  · intro inTurn
    refine ⟨fun earlier other later whole => ?_, inTurn checks check [] rfl⟩
    apply inTurn earlier other (later ++ [check])
    rw [whole, List.append_assoc, List.cons_append]
  · rintro ⟨inTurn, last⟩ earlier other later whole
    obtain ⟨-, rfl, rfl⟩ | ⟨rest, among⟩ := append_singleton_eq whole
    · exact last
    · exact inTurn earlier other rest among

lemma InTurn.imp (inTurn : InTurn P checks)
    (step : ∀ earlier check, P earlier check → Q earlier check) : InTurn Q checks :=
  fun earlier check later whole => step earlier check (inTurn earlier check later whole)

end

namespace Check

/-- Whether the exit of the server is there. -/
def Finds (check : Check) (x : Session) : Prop :=
  ∃ exit ∈ check.before.exits, exit.generation = x.generation

instance (check : Check) (x : Session) : Decidable (check.Finds x) :=
  inferInstanceAs (Decidable (∃ exit ∈ check.before.exits, exit.generation = x.generation))

/-- Whether the check is the first to observe that the grace period is over. -/
def Tries (check : Check) (x : Session) (grace : Nat) (earlier : List Check) : Prop :=
  ¬check.Finds x ∧ grace ≤ check.now ∧ ∀ other ∈ earlier, other.now < grace

instance (check : Check) (x : Session) (grace : Nat) (earlier : List Check) :
    Decidable (check.Tries x grace earlier) :=
  inferInstanceAs (Decidable (_ ∧ _ ∧ _))

/-- Whether the check observes that the time limit has passed. It looks at the limit only where the
grace period is not over yet, or has been found to be over before. -/
def GivesUp (check : Check) (x : Session) (grace limit : Nat) (earlier : List Check) : Prop :=
  ¬check.Finds x ∧ limit ≤ check.now ∧
    (check.now < grace ∨ ∃ other ∈ earlier, grace ≤ other.now)

variable {check : Check} {earlier : List Check}

lemma Tries.not_givesUp (tries : check.Tries x grace earlier) :
    ¬check.GivesUp x grace limit earlier := by
  obtain ⟨-, elapsed, first⟩ := tries
  rintro ⟨-, -, early | ⟨other, member, already⟩⟩
  · omega
  · have := first other member
    omega

end Check

/-- The forced kill of a call: it is tried by the check that first observes that the grace period is
over, unless that check finds the exit. -/
def attempt (x : Session) (grace : Nat) (checks : List Check) : List Effect :=
  match checks.find? (grace ≤ ·.now) with
  | some check => if check.Finds x then [] else forceKill x.pid check.kill
  | none => []

lemma attempt_concat (checks : List Check) (check : Check) :
    attempt x grace (checks ++ [check]) = attempt x grace checks ++
      if check.Tries x grace checks then forceKill x.pid check.kill else [] := by
  unfold attempt
  rw [List.find?_append]
  cases first : checks.find? (grace ≤ ·.now) with
  | some other =>
    have elapsed : grace ≤ other.now := by simpa using List.find?_some first
    have late : ¬check.Tries x grace checks := by
      rintro ⟨-, -, before⟩
      have := before other (List.mem_of_find?_eq_some first)
      omega
    simp [late]
  | none =>
    have before : ∀ other ∈ checks, other.now < grace := by simpa using first
    have tries : check.Tries x grace checks ↔ ¬check.Finds x ∧ grace ≤ check.now := by
      unfold Check.Tries
      rw [and_iff_left before]
    by_cases elapsed : grace ≤ check.now
    · by_cases found : check.Finds x <;> simp [tries, elapsed, found]
    · simp [tries, elapsed]

lemma forall_attempt {p : Effect → Prop} {checks : List Check} (killed : p (.serverKilled x.pid))
    (failed : ∀ cause, p (.logged (.killFailed cause))) :
    ∀ effect ∈ attempt x grace checks, p effect := by
  unfold attempt
  split
  · split
    · simp
    · exact forall_forceKill killed failed
  · simp

lemma finishStop_phase (s : System) (purpose : Purpose) :
    (s.finishStop purpose).1.phase = purpose.place (.ok ()) := by
  cases purpose <;> rfl

lemma verdicts_finishStop (s : System) (purpose : Purpose) :
    ∃ isHeard, verdicts (s.finishStop purpose).2 = purpose.closing isHeard (.ok ()) := by
  cases purpose with
  | stop ticket => exact ⟨s.listening.contains ticket, rfl⟩
  | relaunch | shutdown => exact ⟨false, rfl⟩

lemma abandonStop_phase (s : System) (purpose : Purpose) :
    (s.abandonStop purpose).1.phase = purpose.place (.error .stopTimeout) := by
  cases purpose <;> rfl

lemma verdicts_abandonStop (s : System) (purpose : Purpose) :
    ∃ isHeard, .logged (.stopFailed .stopTimeout) :: verdicts (s.abandonStop purpose).2 =
      purpose.closing isHeard (.error .stopTimeout) := by
  cases purpose with
  | stop ticket | relaunch ticket event addressing => exact ⟨s.listening.contains ticket, rfl⟩
  | shutdown =>
    refine ⟨false, ?_⟩
    simp only [abandonStop, note, andThen_eq]
    split
    · unfold closeRelay
      split <;> rfl
    · rfl

/-- What a check comes to in a call that stops the session `x`. -/
inductive Check.Outcome (x : Session) (purpose : Purpose) (since grace limit : Nat)
    (earlier : List Check) (check : Check) : Prop
  | finds : check.Finds x → check.after.phase = .tearingDown .forget (.finishStop purpose) →
    verdicts check.shown = [] → Outcome x purpose since grace limit earlier check
  | tries : check.Tries x grace earlier →
    check.after = { check.before with phase := .stopping ⟨purpose, x, since, true⟩ } →
    check.shown = forceKill x.pid check.kill → Outcome x purpose since grace limit earlier check
  | givesUp {isHeard : Bool} : check.GivesUp x grace limit earlier →
    check.after.phase = purpose.place (.error .stopTimeout) →
    verdicts check.shown = purpose.closing isHeard (.error .stopTimeout) →
    Outcome x purpose since grace limit earlier check
  | waits : ¬check.Finds x → ¬check.Tries x grace earlier →
    ¬check.GivesUp x grace limit earlier → check.after = check.before → check.shown = [] →
    Outcome x purpose since grace limit earlier check

/-- Whether the grace period has been found to be over. -/
def hasTried (grace : Nat) (checks : List Check) : Bool := checks.any (grace ≤ ·.now)

lemma hasTried_iff {checks : List Check} :
    hasTried grace checks = true ↔ ∃ check ∈ checks, grace ≤ check.now := by
  simp [hasTried]

lemma hasTried_concat (checks : List Check) (check : Check) :
    hasTried grace (checks ++ [check]) = (hasTried grace checks || decide (grace ≤ check.now)) := by
  simp [hasTried]

/-- The exit comes before the grace period, and the grace period before the time limit. -/
lemma Run.checked {earlier : List Check}
    (run : Run (fresh settings collaborators) s seen)
    (phase : s.phase = .stopping ⟨purpose, x, since, hasTried (since + settings.stopGrace) earlier⟩)
    (polled : (s.step? (.poll now kill)).getD (s, []) = (t, more)) :
    Check.Outcome x purpose since (since + settings.stopGrace) (since + settings.stopTimeout)
      earlier ⟨s, now, kill, t, more⟩ := by
  have coherent := run.coherent
  have fits := coherent.phase
  simp only [PhaseFits, phase] at fits
  obtain ⟨machine, e, n, occupied, isOpen⟩ := fits
  simp only [step?, poll, phase, pollStop, run.given.1] at polled
  cases queue : s.exits with
  | cons exit exits =>
    obtain ⟨y, session, same⟩ := run.current (.stopping phase) queue
    obtain rfl := Option.some.inj (occupied.session.symm.trans session)
    have legal : s.machine.allows .tearingDown = true := by rw [machine]; rfl
    simp only [queue, same, handleExit, andThen_eq, session, setState_eq, legal, if_true, enter,
      Option.getD_some, Prod.mk.injEq] at polled
    obtain ⟨rfl, rfl⟩ := polled
    refine .finds ⟨exit, by simp [queue], same.symm⟩ rfl ?_
    apply verdicts_eq_nil
    refine List.forall_mem_append.mpr ⟨forall_exitWarning rfl, ?_⟩
    simp [Effect.isVerdict]
  | nil =>
    let check : Check := ⟨s, now, kill, t, more⟩
    have missing : ¬check.Finds x := by simp [Check.Finds, check, queue]
    rw [queue] at polled
    by_cases first : hasTried (since + settings.stopGrace) earlier = false ∧
        since + settings.stopGrace ≤ now
    · simp only [first, enter, Bool.false_eq_true, not_false_eq_true, and_self, if_true,
        Option.getD_some, Prod.mk.injEq] at polled
      obtain ⟨rfl, rfl⟩ := polled
      refine .tries ⟨missing, first.2, ?_⟩ rfl rfl
      simpa [hasTried] using first.1
    · have started : now < since + settings.stopGrace ∨
          ∃ other ∈ earlier, since + settings.stopGrace ≤ other.now := by
        rw [← hasTried_iff]
        cases tried : hasTried (since + settings.stopGrace) earlier with
        | true => exact .inr rfl
        | false => exact .inl (Nat.lt_of_not_le fun elapsed => first ⟨tried, elapsed⟩)
      simp only [Bool.not_eq_true, first, if_false] at polled
      by_cases late : since + settings.stopTimeout ≤ now
      · simp only [late, if_true, Option.getD_some] at polled
        obtain ⟨rfl, rfl⟩ := Prod.mk.inj polled
        obtain ⟨isHeard, told⟩ := s.verdicts_abandonStop purpose
        exact .givesUp ⟨missing, late, started⟩ (s.abandonStop_phase purpose) told
      · simp only [late, if_false, Option.getD_none] at polled
        obtain ⟨rfl, rfl⟩ := Prod.mk.inj polled
        refine .waits missing ?_ (fun limit => late limit.2.1) rfl rfl
        rintro ⟨-, elapsed, before⟩
        rcases started with early | ⟨other, member, already⟩
        · exact absurd elapsed (Nat.not_le_of_lt early)
        · exact absurd already (Nat.not_le_of_lt (before other member))

/-- Whether no check has ended the call. -/
def Undecided (x : Session) (grace limit : Nat) : List Check → Prop :=
  InTurn fun earlier check => ¬check.Finds x ∧ ¬check.GivesUp x grace limit earlier

/-- Whether a check ends the call, and with which result. -/
def Check.Decides (x : Session) (grace limit : Nat) (earlier : List Check) (check : Check)
    (result : Except SupervisorError Unit) : Prop :=
  check.Finds x ∧ result = .ok () ∨
    check.GivesUp x grace limit earlier ∧ result = .error .stopTimeout

/-- How far a call has come that stops the session `x`. -/
inductive Pursuit (x : Session) (purpose : Purpose) (since grace limit : Nat) (s : System)
    (checks : List Check) (told : List Effect) : Prop
  | waits : Undecided x grace limit checks →
    s.phase = .stopping ⟨purpose, x, since, hasTried grace checks⟩ →
    verdicts told = .cancelled x.generation :: attempt x grace checks →
    Pursuit x purpose since grace limit s checks told
  | ends {earlier : List Check} {check : Check} {stage : TeardownStage} :
    checks = earlier ++ [check] → Undecided x grace limit earlier → check.Finds x →
    s.phase = .tearingDown stage (.finishStop purpose) →
    verdicts told = .cancelled x.generation :: attempt x grace checks →
    Pursuit x purpose since grace limit s checks told
  | returned {earlier : List Check} {check : Check} {result : Except SupervisorError Unit}
    {isHeard : Bool} : checks = earlier ++ [check] → Undecided x grace limit earlier →
    check.Decides x grace limit earlier result → s.phase = purpose.place result →
    verdicts told = .cancelled x.generation :: attempt x grace checks ++
      purpose.closing isHeard result →
    Pursuit x purpose since grace limit s checks told

variable {checks : List Check}

lemma Pursuit.beside (pursuit : Pursuit x purpose since grace limit s checks told)
    (phase : t.phase = s.phase) : Pursuit x purpose since grace limit t checks told := by
  cases pursuit with
  | waits undecided here record => exact .waits undecided (phase.trans here) record
  | ends last undecided finds here record =>
    exact .ends last undecided finds (phase.trans here) record
  | returned last undecided decides here record =>
    exact .returned last undecided decides (phase.trans here) record

lemma verdicts_forceKill (pid : Nat) (kill : Except String Unit) :
    verdicts (forceKill pid kill) = forceKill pid kill := by
  apply List.filter_eq_self.mpr
  exact forall_forceKill rfl fun _ => rfl

/-- A call that can make another check is still undecided. -/
lemma Pursuit.of_stopping {stop : Stop}
    (pursuit : Pursuit x purpose since grace limit s checks told)
    (stopping : s.phase = .stopping stop) :
    Undecided x grace limit checks ∧
      s.phase = .stopping ⟨purpose, x, since, hasTried grace checks⟩ ∧
        verdicts told = .cancelled x.generation :: attempt x grace checks := by
  cases pursuit with
  | waits undecided phase record => exact ⟨undecided, phase, record⟩
  | ends last undecided finds phase =>
    rw [phase] at stopping
    contradiction
  | returned last undecided decides phase =>
    exact absurd (phase.symm.trans stopping) (purpose.place_ne_stopping _ _)

/-- A check is the only way on for a call that waits. -/
lemma Check.Outcome.pursuit {stop : Stop} {check : Check}
    (outcome : check.Outcome x purpose since grace limit checks)
    (pursuit : Pursuit x purpose since grace limit check.before checks told)
    (stopping : check.before.phase = .stopping stop) :
    Pursuit x purpose since grace limit check.after (checks ++ [check]) (told ++ check.shown) := by
  obtain ⟨undecided, phase, record⟩ := pursuit.of_stopping stopping
  -- What the call has tried so far grows only by the check that tries.
  have recorded (tries : ¬check.Tries x grace checks) :
      verdicts (told ++ check.shown) =
        .cancelled x.generation :: attempt x grace (checks ++ [check]) ++
          verdicts check.shown := by
    rw [verdicts_append, record, attempt_concat, if_neg tries, List.append_nil]
  cases outcome with
  | finds finds after quiet =>
    refine .ends rfl undecided finds after ?_
    rw [recorded fun tries => tries.1 finds, quiet, List.append_nil]
  | tries tries after shown =>
    refine .waits (inTurn_concat.mpr ⟨undecided, tries.1, tries.not_givesUp⟩) ?_ ?_
    · rw [after, hasTried_concat]
      simp [tries.2.1]
    · rw [verdicts_append, record, attempt_concat, if_pos tries, shown, verdicts_forceKill]
      rfl
  | givesUp givesUp after shown =>
    have record := recorded fun tries => tries.not_givesUp givesUp
    rw [shown] at record
    exact .returned rfl undecided (.inr ⟨givesUp, rfl⟩) after record
  | waits missing early patient after shown =>
    have kept : hasTried grace (checks ++ [check]) = hasTried grace checks := by
      rw [hasTried_concat]
      by_cases elapsed : grace ≤ check.now
      · have tried : hasTried grace checks = true := by
          by_contra none
          refine early ⟨missing, elapsed, ?_⟩
          simpa [hasTried] using none
        rw [tried, Bool.true_or]
      · simp [elapsed]
    refine .waits (inTurn_concat.mpr ⟨undecided, missing, patient⟩) ?_ ?_
    · rw [after, phase, kept]
    · rw [recorded early, shown]
      exact List.append_nil _

/-- The end of a session that a call has stopped: the call goes on with it, or returns. -/
lemma Turn.winds {stage : TeardownStage} (turn : s.Turn t more)
    (phase : s.phase = .tearingDown stage (.finishStop purpose)) :
    (∃ later, t.phase = .tearingDown later (.finishStop purpose)) ∧ verdicts more = [] ∨
      t.phase = purpose.place (.ok ()) ∧
        ∃ isHeard, verdicts more = purpose.closing isHeard (.ok ()) := by
  cases turn with
  | forget here | closeRelay here | prune here | signalled here =>
    obtain ⟨rfl, rfl⟩ := Phase.tearingDown.inj (here.symm.trans phase)
    exact .inl ⟨⟨_, rfl⟩, rfl⟩
  | stopWrapper here =>
    obtain ⟨rfl, rfl⟩ := Phase.tearingDown.inj (here.symm.trans phase)
    exact .inl ⟨⟨_, rfl⟩, by split <;> rfl⟩
  | killChildren env here =>
    obtain ⟨rfl, rfl⟩ := Phase.tearingDown.inj (here.symm.trans phase)
    exact .inl ⟨⟨_, rfl⟩, verdicts_eq_nil (forall_kills rfl (fun _ => rfl) fun _ _ _ => rfl)⟩
  | signal here =>
    obtain ⟨rfl, rfl⟩ := Phase.tearingDown.inj (here.symm.trans phase)
    exact .inl ⟨⟨_, rfl⟩, verdicts_eq_nil (forall_signal rfl)⟩
  | tearDown here =>
    obtain ⟨rfl, rfl⟩ := Phase.tearingDown.inj (here.symm.trans phase)
    exact .inr ⟨finishStop_phase _ _, verdicts_finishStop _ _⟩
  | exit attends | staleExit attends =>
    cases attends with
    | waiting other | stopping other => simp [phase] at other
  | _ => simp_all only [reduceCtorEq]

lemma Pursuit.winds {stage : TeardownStage} {next : Resumption}
    (pursuit : Pursuit x purpose since grace limit s checks told) (turn : s.Turn t more)
    (phase : s.phase = .tearingDown stage next) :
    Pursuit x purpose since grace limit t checks (told ++ more) := by
  cases pursuit with
  | waits undecided here =>
    rw [here] at phase
    contradiction
  | returned last undecided decides here =>
    exact absurd (here.symm.trans phase) (purpose.place_ne_tearingDown _ _ _)
  | ends last undecided finds here record =>
    rcases turn.winds here with ⟨⟨later, onward⟩, quiet⟩ | ⟨place, isHeard, closing⟩
    · refine .ends last undecided finds onward ?_
      rw [verdicts_append, record, quiet, List.append_nil]
    · have whole : verdicts (told ++ more) = .cancelled x.generation :: attempt x grace checks ++
          purpose.closing isHeard (.ok ()) := by
        rw [verdicts_append, record, closing]
      exact .returned last undecided (.inl ⟨finds, rfl⟩) place whole

/-- The loop takes up what makes it stop a session as soon as it looks. -/
lemma Occasion.poll (occasion : start.Occasion u purpose before) (waiting : start.phase = .waiting)
    (quiet : start.exits = []) (now : Nat) (kill : Except String Unit) :
    start.step? (.poll now kill) =
      some ((u.beginStop now purpose).1, before ++ (u.beginStop now purpose).2) := by
  cases occasion with
  | request queue =>
    simp [step?, System.poll, waiting, pollQueues, quiet, queue, takeRequest, andThen_eq]
  | shutdown queue handles =>
    simp [step?, System.poll, waiting, pollQueues, quiet, queue, handles]

/-- The call cancels the session before it does anything else. -/
lemma Occasion.cancels (occasion : start.Occasion u purpose before) (coherent : start.Coherent)
    (waiting : start.phase = .waiting) (quiet : start.exits = [])
    (session : start.session = some x) (now : Nat) (kill : Except String Unit) :
    start.step? (.poll now kill) =
      some ({ u with
        machine := .stopping, published := .stopping
        servers := start.servers.map fun server =>
          if server.generation = x.generation then { server with isCancelled := true } else server
        phase := .stopping ⟨purpose, x, now, false⟩ },
      before ++ .cancelled x.generation ::
        if start.machine = .active then [.published .active .stopping] else []) := by
  have fits := coherent.phase
  simp only [PhaseFits, waiting] at fits
  rw [occasion.poll waiting quiet]
  obtain ⟨requests, rfl⟩ := occasion.fst
  rcases fits with ⟨-, vacant⟩ | ⟨running, -⟩
  · rw [vacant.session] at session
    contradiction
  · have begun := beginStop_eq (s := { start with requests }) running coherent.published session
    rw [begun]

lemma Occasion.verdicts_eq_nil (occasion : start.Occasion u purpose before) :
    verdicts before = [] := by
  cases occasion <;> rfl

/-- Everything that has been found out of a check when it is made. -/
structure Check.Sound (settings : Settings) (collaborators : Collaborators) (x : Session)
    (purpose : Purpose) (since : Nat) (earlier : List Check) (check : Check) : Prop where
  run : ∃ seen, Run (fresh settings collaborators) check.before seen
  phase : ∃ stop, check.before.phase = .stopping stop ∧ stop.purpose = purpose
  session : check.before.session = some x
  outcome : check.Outcome x purpose since (since + settings.stopGrace)
    (since + settings.stopTimeout) earlier

lemma Halt.pursuit (halt : Halt start since s checks told)
    (run : Run (fresh settings collaborators) start seen) (waiting : start.phase = .waiting)
    (quiet : start.exits = []) (session : start.session = some x)
    (occasion : start.Occasion u purpose before) :
    (∃ seen, Run (fresh settings collaborators) s seen) ∧
      InTurn (Check.Sound settings collaborators x purpose since) checks ∧
      Pursuit x purpose since (since + settings.stopGrace) (since + settings.stopTimeout) s checks
        told := by
  induction halt with
  | @begin s kill more step =>
    refine ⟨⟨_, run.step step⟩, inTurn_nil, ?_⟩
    rw [occasion.cancels run.coherent waiting quiet session] at step
    obtain ⟨rfl, rfl⟩ := Prod.mk.inj (Option.some.inj step)
    refine .waits inTurn_nil rfl ?_
    rw [verdicts_append, occasion.verdicts_eq_nil]
    split <;> rfl
  | @check s t stop checks now kill told more halt phase polled ih =>
    obtain ⟨⟨seen, running⟩, sound, pursuit⟩ := ih
    have onward : ∃ seen, Run (fresh settings collaborators) t seen := by
      cases step : s.step? (.poll now kill) with
      | none =>
        rw [step] at polled
        cases polled
        exact ⟨seen, running⟩
      | some out =>
        rw [step] at polled
        cases polled
        exact ⟨_, running.step step⟩
    obtain ⟨-, here, -⟩ := pursuit.of_stopping phase
    have outcome := running.checked here polled
    have fits := running.coherent.phase
    simp only [PhaseFits, here] at fits
    obtain ⟨-, e, n, occupied, -⟩ := fits
    have last : Check.Sound settings collaborators x purpose since checks
        ⟨s, now, kill, t, more⟩ :=
      ⟨⟨seen, running⟩, ⟨_, here, rfl⟩, occupied.session, outcome⟩
    exact ⟨onward, inTurn_concat.mpr ⟨sound, last⟩, outcome.pursuit pursuit here⟩
  | @tearDown s t stage next env checks told more halt phase step ih =>
    obtain ⟨⟨seen, running⟩, sound, pursuit⟩ := ih
    have turn := (step?_move running.coherent step).toTurn rfl
    exact ⟨⟨_, running.step step⟩, sound, pursuit.winds turn phase⟩
  | @beside s t i checks told more halt other alive step ih =>
    obtain ⟨⟨seen, running⟩, sound, pursuit⟩ := ih
    have beside := (step?_move running.coherent step).beside other alive
    exact ⟨⟨_, running.step step⟩, sound, pursuit.beside beside.phase⟩

/-- Whether one of the checks has ended the call with a result. -/
def Settled (x : Session) (grace limit : Nat) (checks : List Check)
    (result : Except SupervisorError Unit) : Prop :=
  ∃ earlier check later, checks = earlier ++ check :: later ∧
    check.Decides x grace limit earlier result

lemma settled_ok : Settled x grace limit checks (.ok ()) ↔ ∃ check ∈ checks, check.Finds x := by
  constructor
  · rintro ⟨earlier, check, later, rfl, ⟨finds, -⟩ | ⟨-, impossible⟩⟩
    · exact ⟨check, by simp, finds⟩
    · cases impossible
  · rintro ⟨check, member, finds⟩
    obtain ⟨earlier, later, whole⟩ := List.append_of_mem member
    exact ⟨earlier, check, later, whole, .inl ⟨finds, rfl⟩⟩

lemma settled_stopTimeout : Settled x grace limit checks (.error .stopTimeout) ↔
    ∃ earlier check later, checks = earlier ++ check :: later ∧
      check.GivesUp x grace limit earlier := by
  simp [Settled, Check.Decides]

lemma Undecided.not_decides {earlier later : List Check} {check : Check}
    {result : Except SupervisorError Unit} (undecided : Undecided x grace limit checks)
    (whole : checks = earlier ++ check :: later) : ¬check.Decides x grace limit earlier result := by
  obtain ⟨missing, patient⟩ := undecided earlier check later whole
  rintro (⟨finds, -⟩ | ⟨givesUp, -⟩)
  · exact missing finds
  · exact patient givesUp

lemma Undecided.not_settled {result : Except SupervisorError Unit}
    (undecided : Undecided x grace limit checks) : ¬Settled x grace limit checks result := by
  rintro ⟨earlier, check, later, whole, decides⟩
  exact undecided.not_decides whole decides

/-- After a check that ends the call there is no other. -/
lemma Undecided.last {earlier before later : List Check} {check final : Check}
    {result : Except SupervisorError Unit} (undecided : Undecided x grace limit before)
    (whole : before ++ [final] = earlier ++ check :: later)
    (decides : check.Decides x grace limit earlier result) :
    later = [] ∧ earlier = before ∧ check = final := by
  obtain last | ⟨rest, among⟩ := append_singleton_eq whole
  · exact last
  · exact absurd decides (undecided.not_decides among)

lemma Check.Decides.unique {earlier : List Check} {check : Check}
    {result other : Except SupervisorError Unit}
    (decides : check.Decides x grace limit earlier result)
    (also : check.Decides x grace limit earlier other) : other = result := by
  rcases decides with ⟨finds, rfl⟩ | ⟨givesUp, rfl⟩
  · rcases also with ⟨-, rfl⟩ | ⟨givesUp, -⟩
    · rfl
    · exact absurd finds givesUp.1
  · rcases also with ⟨finds, -⟩ | ⟨-, rfl⟩
    · exact absurd finds givesUp.1
    · rfl

lemma Undecided.settled_concat {check : Check} {result other : Except SupervisorError Unit}
    (undecided : Undecided x grace limit checks)
    (decides : check.Decides x grace limit checks result) :
    Settled x grace limit (checks ++ [check]) other ↔ other = result := by
  constructor
  · rintro ⟨earlier, final, later, whole, also⟩
    obtain ⟨rfl, rfl, rfl⟩ := undecided.last whole also
    exact decides.unique also
  · rintro rfl
    exact ⟨checks, check, [], rfl, decides⟩

namespace Pursuit
variable (pursuit : Pursuit x purpose since grace limit s checks told)
include pursuit

/-- The call has a result as soon as it is settled and nothing of the session is left. -/
lemma returns_iff {result : Except SupervisorError Unit} :
    purpose.Returns s told result ↔ Settled x grace limit checks result ∧
      ∀ stage, s.phase ≠ .tearingDown stage (.finishStop purpose) := by
  cases pursuit with
  | waits undecided phase =>
    refine iff_of_false (fun returns => ?_) fun settled => undecided.not_settled settled.1
    exact purpose.place_ne_stopping _ _ (returns.1.symm.trans phase)
  | ends last undecided finds phase =>
    refine iff_of_false (fun returns => ?_) fun settled => settled.2 _ phase
    exact purpose.place_ne_tearingDown _ _ _ (returns.1.symm.trans phase)
  | @returned earlier check given isHeard last undecided decides phase record =>
    have quiet : ∀ effect ∈ .cancelled x.generation :: attempt x grace checks,
        effect.isResult = false :=
      List.forall_mem_cons.mpr ⟨rfl, forall_attempt rfl fun _ => rfl⟩
    rw [Purpose.returns_iff phase record quiet, last, undecided.settled_concat decides, phase]
    exact (and_iff_left fun stage => purpose.place_ne_tearingDown _ _ _).symm

lemma tearingDown {stage : TeardownStage} {next : Resumption}
    (phase : s.phase = .tearingDown stage next) : Settled x grace limit checks (.ok ()) := by
  cases pursuit with
  | waits undecided other =>
    rw [other] at phase
    contradiction
  | ends last undecided finds =>
    rw [last, undecided.settled_concat (.inl ⟨finds, rfl⟩)]
  | returned last undecided decides other =>
    exact absurd (other.symm.trans phase) (purpose.place_ne_tearingDown _ _ _)

lemma unique {result other : Except SupervisorError Unit}
    (settled : Settled x grace limit checks result) (also : Settled x grace limit checks other) :
    result = other := by
  cases pursuit with
  | waits undecided => exact absurd settled undecided.not_settled
  | ends last undecided finds =>
    rw [last, undecided.settled_concat (.inl ⟨finds, rfl⟩)] at settled also
    rw [settled, also]
  | returned last undecided decides =>
    rw [last, undecided.settled_concat decides] at settled also
    rw [settled, also]

lemma undecided_iff : (∃ stop, s.phase = .stopping stop) ↔ Undecided x grace limit checks := by
  have decided {earlier : List Check} {check : Check} {result : Except SupervisorError Unit}
      (last : checks = earlier ++ [check]) (decides : check.Decides x grace limit earlier result) :
      ¬Undecided x grace limit checks :=
    fun undecided => undecided.not_decides last decides
  cases pursuit with
  | waits undecided phase => exact iff_of_true ⟨_, phase⟩ undecided
  | ends last undecided finds phase =>
    exact iff_of_false (by simp [phase]) (decided last (.inl ⟨finds, rfl⟩))
  | returned last undecided decides phase =>
    refine iff_of_false ?_ (decided last decides)
    rintro ⟨stop, stopping⟩
    exact purpose.place_ne_stopping _ _ (phase.symm.trans stopping)

lemma last {earlier later : List Check} {check : Check} {result : Except SupervisorError Unit}
    (whole : checks = earlier ++ check :: later)
    (decides : check.Decides x grace limit earlier result) :
    later = [] ∧ Undecided x grace limit earlier := by
  cases pursuit with
  | waits undecided => exact absurd decides (undecided.not_decides whole)
  | ends last undecided | returned last undecided =>
    obtain ⟨rfl, rfl, rfl⟩ := undecided.last (last.symm.trans whole) decides
    exact ⟨rfl, undecided⟩

/-- Of two checks after the time limit the second one ends the call at the latest. -/
lemma prompt {earlier later : List Check} {check other : Check}
    (whole : checks = earlier ++ check :: later) (late : limit ≤ check.now)
    (member : other ∈ earlier) (already : limit ≤ other.now) :
    check.Finds x ∨ check.GivesUp x grace limit earlier := by
  by_contra neither
  obtain ⟨missing, patient⟩ := not_or.mp neither
  have first : ∀ other ∈ earlier, other.now < grace := by
    intro other member
    by_contra elapsed
    exact patient ⟨missing, late, .inr ⟨other, member, Nat.le_of_not_lt elapsed⟩⟩
  have early := first other member
  obtain ⟨sooner, between, rfl⟩ := List.append_of_mem member
  rw [List.append_assoc, List.cons_append] at whole
  -- The other check would have ended the call itself.
  have ends : ∃ result, other.Decides x grace limit sooner result := by
    by_cases finds : other.Finds x
    · exact ⟨_, .inl ⟨finds, rfl⟩⟩
    · exact ⟨_, .inr ⟨⟨finds, already, .inl early⟩, rfl⟩⟩
  obtain ⟨result, decides⟩ := ends
  simpa using (pursuit.last whole decides).1

lemma record : ∃ rest,
    verdicts told = .cancelled x.generation :: attempt x grace checks ++ rest ∧
      (rest = [] ∨ ∃ isHeard result, rest = purpose.closing isHeard result) := by
  cases pursuit with
  | waits undecided phase record | ends last undecided finds phase record =>
    exact ⟨[], by rw [record, List.append_nil], .inl rfl⟩
  | returned last undecided decides phase record => exact ⟨_, record, .inr ⟨_, _, rfl⟩⟩

end Pursuit

/-- How a call that stops the session `x` keeps to its timetable. -/
structure Escalation (x : Session) (purpose : Purpose) (grace limit : Nat) (s : System)
    (checks : List Check) (told : List Effect) : Prop where
  /-- The call has cancelled the session, has then tried once at the most to kill its server, and
  has told its result last. -/
  record : ∃ rest,
    verdicts told = .cancelled x.generation :: attempt x grace checks ++ rest ∧
      (rest = [] ∨ ∃ isHeard result, rest = purpose.closing isHeard result)
  /-- It succeeds where a check finds the exit, whatever the timers say, after the end of the
  session. -/
  succeeds : (purpose.Returns s told (.ok ()) ∨
      ∃ stage, s.phase = .tearingDown stage (.finishStop purpose)) ↔
    ∃ check ∈ checks, check.Finds x
  ends : ∀ check ∈ checks, check.Finds x → ∃ n, check.before.shared.relay = some n ∧
    ∀ {v parted}, Parting x check.before v parted → Departure x n check.before v parted
  /-- It runs out of time where a check observes the time limit before the exit is there. -/
  timesOut : purpose.Returns s told (.error .stopTimeout) ↔
    ∃ earlier check later, checks = earlier ++ check :: later ∧
      check.GivesUp x grace limit earlier
  nothingElse : ∀ result, purpose.Returns s told result →
    result = .ok () ∨ result = .error .stopTimeout
  /-- Until then it waits, but not for long once the time limit has passed. -/
  waits : (∃ stop, s.phase = .stopping stop) ↔ Undecided x grace limit checks
  prompt : InTurn (fun earlier check => limit ≤ check.now → (∃ other ∈ earlier, limit ≤ other.now) →
    check.Finds x ∨ check.GivesUp x grace limit earlier) checks
  final : ∀ earlier check later result, checks = earlier ++ check :: later →
    check.Decides x grace limit earlier result → later = []
  /-- The first check to observe that the grace period is over tries to kill the server, and logs it
  when that fails; no other check does. -/
  tries : InTurn (fun earlier check => check.Tries x grace earlier →
    check.shown = forceKill x.pid check.kill) checks
  spares : InTurn (fun earlier check => ¬check.Tries x grace earlier →
    ∀ pid, .serverKilled pid ∉ check.shown) checks
  /-- A call that runs out of time has tried the kill unless there is no process to kill or the time
  limit comes before the end of the grace period. -/
  unkilled : purpose.Returns s told (.error .stopTimeout) → attempt x grace checks = [] →
    x.pid = 0 ∨ limit < grace
  /-- What becomes of the kill makes no difference. -/
  indifferent : ∀ now kill other,
    (s.step? (.poll now kill)).map (·.1) = (s.step? (.poll now other)).map (·.1)

lemma step?_poll_kill (s : System) (now : Nat) (kill other : Except String Unit) :
    (s.step? (.poll now kill)).map (·.1) = (s.step? (.poll now other)).map (·.1) := by
  simp only [step?, poll]
  cases s.phase with
  | stopping stop =>
    simp only [pollStop]
    cases s.exits with
    | nil => dsimp only; split_ifs <;> rfl
    | cons => rfl
  | _ => rfl

lemma Check.Sound.departs {earlier : List Check} {check : Check}
    (sound : check.Sound settings collaborators x purpose since earlier) (finds : check.Finds x) :
    ∃ n, check.before.shared.relay = some n ∧
      ∀ {v parted}, Parting x check.before v parted → Departure x n check.before v parted := by
  obtain ⟨seen, run⟩ := sound.run
  obtain ⟨stop, phase, -⟩ := sound.phase
  have awaits : check.before.phase.awaits = true := by rw [phase]; rfl
  obtain ⟨e, n, occupied⟩ := run.coherent.occupied awaits sound.session
  obtain ⟨exit, member, -⟩ := finds
  exact ⟨n, occupied.relay, fun parting =>
    parting.departure run awaits sound.session occupied.relay (List.ne_nil_of_mem member)⟩

lemma serverKilled_not_mem_closing (pid : Nat) (isHeard : Bool) (purpose : Purpose)
    (result : Except SupervisorError Unit) :
    .serverKilled pid ∉ purpose.closing isHeard result := by
  cases purpose <;> cases result <;> simp [Purpose.closing]

lemma Check.Outcome.tries_shown {earlier : List Check} {check : Check}
    (outcome : check.Outcome x purpose since grace limit earlier)
    (tries : check.Tries x grace earlier) : check.shown = forceKill x.pid check.kill := by
  cases outcome with
  | finds finds => exact absurd finds tries.1
  | tries _ _ shown => exact shown
  | givesUp givesUp => exact absurd givesUp tries.not_givesUp
  | waits missing early => exact absurd tries early

lemma Check.Outcome.spares {earlier : List Check} {check : Check}
    (outcome : check.Outcome x purpose since grace limit earlier)
    (idle : ¬check.Tries x grace earlier) (pid : Nat) : .serverKilled pid ∉ check.shown := by
  intro killed
  have told : Effect.serverKilled pid ∈ verdicts check.shown := (mem_verdicts rfl).mpr killed
  cases outcome with
  | finds _ _ quiet => simp [quiet] at told
  | tries tries => exact idle tries
  | givesUp _ _ closing =>
    rw [closing] at told
    exact serverKilled_not_mem_closing _ _ _ _ told
  | waits _ _ _ _ shown => simp [shown] at killed

/-- A check that gives up comes after the attempt, unless the time limit comes first. -/
lemma Undecided.attempt_eq_nil {check : Check} (undecided : Undecided x grace limit checks)
    (givesUp : check.GivesUp x grace limit checks)
    (untried : attempt x grace (checks ++ [check]) = []) : x.pid = 0 ∨ limit < grace := by
  obtain ⟨-, late, early | tried⟩ := givesUp
  · exact .inr (by omega)
  · left
    rw [attempt_concat, List.append_eq_nil_iff] at untried
    obtain ⟨other, first⟩ : ∃ other, checks.find? (grace ≤ ·.now) = some other := by
      simpa [← Option.isSome_iff_exists] using tried
    obtain ⟨earlier, later, whole⟩ := List.append_of_mem (List.mem_of_find?_eq_some first)
    have missing : ¬other.Finds x := (undecided earlier other later whole).1
    have spared : forceKill x.pid other.kill = [] := by
      simpa [attempt, first, missing] using untried.1
    by_contra present
    simp [forceKill, present] at spared

lemma Halt.escalation (halt : Halt start since s checks told)
    (run : Run (fresh settings collaborators) start seen) (waiting : start.phase = .waiting)
    (quiet : start.exits = []) (session : start.session = some x)
    (occasion : start.Occasion u purpose before) :
    Escalation x purpose (since + settings.stopGrace) (since + settings.stopTimeout) s checks
      told := by
  obtain ⟨-, sound, pursuit⟩ := halt.pursuit run waiting quiet session occasion
  constructor
  case record => exact pursuit.record
  case succeeds =>
    rw [← settled_ok]
    constructor
    · rintro (returns | ⟨stage, phase⟩)
      · exact (pursuit.returns_iff.mp returns).1
      · exact pursuit.tearingDown phase
    · intro settled
      by_cases ending : ∃ stage, s.phase = .tearingDown stage (.finishStop purpose)
      · exact .inr ending
      · exact .inl (pursuit.returns_iff.mpr ⟨settled, not_exists.mp ending⟩)
  case ends =>
    intro check member finds
    obtain ⟨earlier, later, whole⟩ := List.append_of_mem member
    exact (sound earlier check later whole).departs finds
  case timesOut =>
    rw [← settled_stopTimeout, pursuit.returns_iff]
    apply and_iff_left_of_imp
    intro settled stage phase
    cases pursuit.unique (pursuit.tearingDown phase) settled
  case nothingElse =>
    intro result returns
    obtain ⟨⟨earlier, check, later, -, decides⟩, -⟩ := pursuit.returns_iff.mp returns
    rcases decides with ⟨-, same⟩ | ⟨-, same⟩
    · exact .inl same
    · exact .inr same
  case waits => exact pursuit.undecided_iff
  case prompt =>
    intro earlier check later whole late ⟨other, member, already⟩
    exact pursuit.prompt whole late member already
  case final =>
    intro earlier check later result whole decides
    exact (pursuit.last whole decides).1
  case tries => exact sound.imp fun _ _ sound => sound.outcome.tries_shown
  case spares => exact sound.imp fun _ _ sound => sound.outcome.spares
  case unkilled =>
    intro returns untried
    obtain ⟨⟨earlier, check, later, whole, decides⟩, -⟩ := pursuit.returns_iff.mp returns
    obtain ⟨rfl, undecided⟩ := pursuit.last whole decides
    obtain ⟨-, impossible⟩ | ⟨givesUp, -⟩ := decides
    · cases impossible
    · exact undecided.attempt_eq_nil givesUp (whole ▸ untried)
  case indifferent => exact s.step?_poll_kill

/-- How the loop goes about it when something makes it stop the session. -/
structure Timely (settings : Settings) (start u : System) (purpose : Purpose)
    (before : List Effect) : Prop where
  /-- Without a session the call succeeds at once, and nothing is cancelled, killed or published. -/
  vacant : start.session = none → ∀ now kill, ∃ t more,
    start.step? (.poll now kill) = some (t, before ++ more) ∧ purpose.Returns t more (.ok ()) ∧
      (∃ phase listening, t = { u with phase, listening }) ∧
        ∀ effect ∈ more, effect = .finished ∨ ∃ ticket isHeard,
          effect = .answered ticket (.ok ()) isHeard
  /-- A session is cancelled, and is stopping from then on, be it for the first time or not. -/
  cancels : ∀ {x}, start.session = some x →
    (start.machine = .active ∨ start.machine = .stopping) ∧ ∀ now kill,
      start.step? (.poll now kill) =
        some ({ u with
          machine := .stopping, published := .stopping
          servers := start.servers.map fun server =>
            if server.generation = x.generation then { server with isCancelled := true } else server
          phase := .stopping ⟨purpose, x, now, false⟩ },
        before ++ .cancelled x.generation ::
          if start.machine = .active then [.published .active .stopping] else [])
  escalates : ∀ {x since s checks told}, start.session = some x → Halt start since s checks told →
    Escalation x purpose (since + settings.stopGrace) (since + settings.stopTimeout) s checks told

theorem Run.timely (run : Run (fresh settings collaborators) start seen)
    (waiting : start.phase = .waiting) (quiet : start.exits = [])
    (occasion : start.Occasion u purpose before) : Timely settings start u purpose before := by
  have fits := run.coherent.phase
  simp only [PhaseFits, waiting] at fits
  constructor
  case vacant =>
    intro session now kill
    have vacant : u.session = .none := by
      obtain ⟨requests, rfl⟩ := occasion.fst
      exact session
    have step := occasion.poll waiting quiet now kill
    simp only [beginStop, vacant] at step
    refine ⟨_, _, step, ?_, ?_, forall_finishStop (fun _ _ => .inr ⟨_, _, rfl⟩) (.inl rfl)⟩
    · obtain ⟨isHeard, told⟩ := u.verdicts_finishStop purpose
      have record : verdicts (u.finishStop purpose).2 =
          [] ++ purpose.closing isHeard (.ok ()) := told
      exact (Purpose.returns_iff (finishStop_phase _ _) record (by simp)).mpr rfl
    · exact finishStop_fst _ _
  case cancels =>
    intro x session
    refine ⟨?_, occasion.cancels run.coherent waiting quiet session⟩
    rcases fits with ⟨-, vacant⟩ | ⟨running, -⟩
    · rw [vacant.session] at session
      contradiction
    · exact running
  case escalates =>
    intro x since s checks told session halt
    exact halt.escalation run waiting quiet session occasion

/-- A server that cannot be killed: the attempt fails when the grace period is over, and the call
still gives up only at the time limit. -/
theorem timely_unkillable :
    ∃ start u seen, Run (fresh .standard ⟨false, false⟩) start seen ∧ start.phase = .waiting ∧
      start.exits = [] ∧ start.session = some ⟨1, 7⟩ ∧
      start.Occasion u (.stop 2) [.took ⟨2, .stop⟩] ∧
      Timely .standard start u (.stop 2) [.took ⟨2, .stop⟩] ∧
      ∃ s checks told, Halt start 0 s checks told ∧
        checks.map (·.now) = [9999, 10000, 19999, 20000] ∧
        .logged (.killFailed (.termination 7 "not permitted")) ∈ told ∧
        Purpose.Returns (.stop 2) s told (.error .stopTimeout) := by
  have steps : ∃ out, (fresh .standard ⟨false, false⟩).steps?
      (launchInputs ⟨1, .start ⟨"race"⟩ (.direct ":9000" 9001)⟩ ++ [.submit ⟨2, .stop⟩]) =
        some out ∧
      out.1.phase = .waiting ∧ out.1.exits = [] ∧ out.1.session = some ⟨1, 7⟩ ∧
      out.1.requests = [⟨2, .stop⟩] ∧
      ∃ first, out.1.step? (.poll 0 (.ok ())) =
        some (first, [.took ⟨2, .stop⟩, .cancelled 1, .published .active .stopping]) ∧
        first.phase = .stopping ⟨.stop 2, ⟨1, 7⟩, 0, false⟩ ∧
      (first.step? (.poll 9999 (.ok ()))).getD (first, []) = (first, []) ∧
      ∃ second, (first.step? (.poll 10000 (.error "not permitted"))).getD (first, []) =
        (second, [.serverKilled 7, .logged (.killFailed (.termination 7 "not permitted"))]) ∧
        second.phase = .stopping ⟨.stop 2, ⟨1, 7⟩, 0, true⟩ ∧
      (second.step? (.poll 19999 (.ok ()))).getD (second, []) = (second, []) ∧
      ∃ s, (second.step? (.poll 20000 (.ok ()))).getD (second, []) =
        (s, [.logged (.stopFailed .stopTimeout), .answered 2 (.error .stopTimeout) true]) ∧
        s.phase = .waiting :=
    ⟨_, rfl, rfl, rfl, rfl, rfl, _, rfl, rfl, rfl, _, rfl, rfl, rfl, _, rfl, rfl⟩
  obtain ⟨⟨start, seen⟩, steps, waiting, quiet, session, requests, first, begun, stopping, early,
    second, kill, failing, still, s, giveUp, rested⟩ := steps
  have run := Run.none.steps steps
  have occasion : start.Occasion { start with requests := [] } (.stop 2) [.took ⟨2, .stop⟩] :=
    .request requests
  have halt : Halt start 0 s _ _ :=
    ((((Halt.begin begun).check stopping early).check stopping kill).check failing still).check
      failing giveUp
  exact ⟨start, _, seen, run, waiting, quiet, session, occasion,
    run.timely waiting quiet occasion, s, _, _, halt, rfl, by simp, rested, true, by simp⟩

end System
end RaceControl
