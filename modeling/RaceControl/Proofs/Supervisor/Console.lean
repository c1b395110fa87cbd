import Mathlib.Data.List.Basic
import RaceControl.Proofs.LogBuffer
import RaceControl.Proofs.Supervisor.Passages
import RaceControl.Proofs.Supervisor.Tasks

/-!
The console output of the servers on its way into the log. Each server has two streams, each stream
its own reader, and the readers of different servers may be at work at the same time; what they put
into the log is a merge of the streams, whatever the control loop does meanwhile.
-/
namespace RaceControl

/-- A sequence made up of streams: each of their elements stands in it once, and those of one stream
in their order. -/
def IsMerge {κ α : Type} [DecidableEq κ] (streams : κ → List α) (merged : List α) : Prop :=
  ∃ labelled : List (κ × α), labelled.map (·.2) = merged ∧
    ∀ k, (labelled.filter (·.1 = k)).map (·.2) = streams k

/-- One output stream of one server. -/
structure Outlet where
  generation : Nat
  stream : Stream
  deriving DecidableEq, Repr, Inhabited

/-- Bytes that have been written to a stream, or read from it, at once. -/
structure Chunk where
  outlet : Outlet
  bytes : List UInt8
  deriving DecidableEq, Repr, Inhabited

/-- The bytes of one stream. -/
def streamOf (outlet : Outlet) (chunks : List Chunk) : List UInt8 :=
  (chunks.filter (·.outlet = outlet)).flatMap (·.bytes)

@[simp] lemma streamOf_nil (outlet : Outlet) : streamOf outlet [] = [] := rfl

@[simp] lemma streamOf_append (outlet : Outlet) (chunks later : List Chunk) :
    streamOf outlet (chunks ++ later) = streamOf outlet chunks ++ streamOf outlet later := by
  rw [streamOf, List.filter_append, List.flatMap_append]
  rfl

@[simp] lemma streamOf_singleton (outlet : Outlet) (chunk : Chunk) :
    streamOf outlet [chunk] = if chunk.outlet = outlet then chunk.bytes else [] := by
  by_cases same : chunk.outlet = outlet <;> simp [streamOf, same]

lemma streamOf_cons (outlet : Outlet) (chunk : Chunk) (rest : List Chunk) :
    streamOf outlet (chunk :: rest) =
      (if chunk.outlet = outlet then chunk.bytes else []) ++ streamOf outlet rest := by
  rw [← List.singleton_append, streamOf_append, streamOf_singleton]

/-- Chunks one after another are a merge of their streams. -/
lemma isMerge_chunks (chunks : List Chunk) :
    IsMerge (streamOf · chunks) (chunks.flatMap (·.bytes)) := by
  refine ⟨chunks.flatMap fun chunk => chunk.bytes.map (chunk.outlet, ·), ?_, fun outlet => ?_⟩
  · simp [List.map_flatMap, Function.comp_def]
  · change _ = streamOf outlet chunks
    induction chunks with
    | nil => rfl
    | cons chunk rest ih =>
      rw [List.flatMap_cons, List.filter_append, List.map_append, ih, streamOf_cons]
      by_cases same : chunk.outlet = outlet <;> simp [same, List.filter_map, Function.comp_def]

/-- What a reader has taken from a stream. -/
def Effect.reading? : Effect → Option Chunk
  | .captured generation stream bytes => some ⟨⟨generation, stream⟩, bytes⟩
  | _ => none

def readings (shown : List Effect) : List Chunk := shown.filterMap Effect.reading?

@[simp] lemma readings_nil : readings [] = [] := rfl

@[simp] lemma readings_append (shown later : List Effect) :
    readings (shown ++ later) = readings shown ++ readings later :=
  List.filterMap_append

lemma readings_eq_nil {more : List Effect} (none : ∀ effect ∈ more, effect.isDetached = false) :
    readings more = [] := by
  refine List.filterMap_eq_nil_iff.mpr fun effect shown => ?_
  have foreign := none effect shown
  cases effect <;> first | rfl | contradiction

/-- What a server has written to one of its streams. -/
def Input.writing? : Input → Option Chunk
  | .wrote generation stream bytes => some ⟨⟨generation, stream⟩, bytes⟩
  | _ => none

namespace System
variable {s t : System} {seen more : List Effect} {i : Input} {passed : List Transit}

def writings (passed : List Transit) : List Chunk := passed.filterMap (·.input.writing?)

/-- What waits in a stream to be read. -/
def unread (s : System) (outlet : Outlet) : List UInt8 :=
  ((s.pipe? outlet.generation outlet.stream).map (·.unread)).getD []

lemma unread_of_pipe? {generation : Nat} {stream : Stream} {pipe : Pipe}
    (found : s.pipe? generation stream = some pipe) :
    s.unread ⟨generation, stream⟩ = pipe.unread := by
  simp [unread, found]

lemma key_of_pipe? {generation : Nat} {stream : Stream} {pipe : Pipe}
    (found : s.pipe? generation stream = some pipe) :
    pipe.generation = generation ∧ pipe.stream = stream := by
  simpa using List.find?_some found

lemma pipe?_setPipe (pipe : Pipe) (generation : Nat) (stream : Stream) :
    (s.setPipe pipe).pipe? generation stream = (s.pipe? generation stream).map fun p =>
      if p.generation = pipe.generation ∧ p.stream = pipe.stream then pipe else p := by
  rw [pipe?, setPipe, List.find?_map]
  congr 2
  funext p
  simp only [Function.comp_apply]
  split
  case isTrue same => rw [same.1, same.2]
  case isFalse => rfl

/-- A change to one stream leaves the others. -/
lemma unread_setPipe {generation : Nat} {stream : Stream} {pipe : Pipe}
    (found : s.pipe? generation stream = some pipe) (bytes : List UInt8) (outlet : Outlet) :
    (s.setPipe { pipe with unread := bytes }).unread outlet =
      if (⟨generation, stream⟩ : Outlet) = outlet then bytes else s.unread outlet := by
  obtain ⟨rfl, rfl⟩ := key_of_pipe? found
  rw [unread, pipe?_setPipe]
  split
  case isTrue same =>
    subst same
    simp [found]
  case isFalse other =>
    cases here : s.pipe? outlet.generation outlet.stream with
    | none => simp [unread, here]
    | some p =>
      obtain ⟨first, second⟩ := key_of_pipe? here
      have apart : ¬(p.generation = pipe.generation ∧ p.stream = pipe.stream) := by
        rintro ⟨same, likewise⟩
        exact other (by rw [← same, ← likewise, first, second])
      simp [unread, here, apart]

lemma unread_of_pipes (same : t.pipes = s.pipes) (outlet : Outlet) :
    t.unread outlet = s.unread outlet := by
  rw [unread, unread, pipe?, pipe?, same]

/-- New pipes are empty, and take nothing away from those there are. -/
lemma Lays.unread (lays : s.Lays t.pipes) (outlet : Outlet) :
    t.unread outlet = s.unread outlet := by
  generalize pipes : t.pipes = after at lays
  cases lays with
  | nothing => exact unread_of_pipes pipes outlet
  | server =>
    rw [System.unread, System.unread, pipe?, pipe?, pipes, List.find?_append]
    generalize (fun p : Pipe => p.generation == outlet.generation && p.stream == outlet.stream) = own
    cases s.pipes.find? own with
    | some p => rfl
    | none =>
      have empty : ∀ p ∈ [(⟨s.nextGeneration, .output, []⟩ : Pipe), ⟨s.nextGeneration, .errors, []⟩],
          p.unread = [] := by simp
      cases found : List.find? own [⟨s.nextGeneration, .output, []⟩, ⟨s.nextGeneration, .errors, []⟩]
      with
      | none => rfl
      | some p => exact empty p (List.mem_of_find?_eq_some found)

/-- What one step does for the console: what was unread and what is written is what is read, into
the log, and what remains unread. -/
structure Conveys (s : System) (i : Input) (t : System) (more : List Effect) : Prop where
  log : t.log = ((readings more).map (·.bytes)).foldl LogBuffer.append s.log
  unread : ∀ outlet, s.unread outlet ++ streamOf outlet i.writing?.toList =
    streamOf outlet (readings more) ++ t.unread outlet
  size : ∀ chunk ∈ readings more, 1 ≤ chunk.bytes.length ∧ chunk.bytes.length ≤ captureSize
  reads : readings more ≠ [] → ∃ generation stream count, i = .capture generation stream count

lemma Conveys.of_unread (idle : readings more = []) (silent : i.writing? = none)
    (log : t.log = s.log) (unread : ∀ outlet, t.unread outlet = s.unread outlet) :
    s.Conveys i t more where
  log := by simp [idle, log]
  unread outlet := by simp [idle, silent, unread]
  size := by simp [idle]
  reads some := absurd idle some

lemma Detached.conveys (detached : s.Detached i t more) : s.Conveys i t more := by
  cases detached with
  | @wrote generation stream bytes pipe found =>
    refine ⟨rfl, fun outlet => ?_, by simp [readings, Effect.reading?], by simp⟩
    rw [unread_setPipe found, Input.writing?]
    by_cases same : (⟨generation, stream⟩ : Outlet) = outlet
    · subst same
      simp [unread_of_pipe? found]
    · simp [same]
  | @capture generation stream count pipe bytes found cut nonempty =>
    have first : bytes <+: pipe.unread := cut ▸ List.take_prefix ..
    have shown : readings [.captured generation stream bytes] = [⟨⟨generation, stream⟩, bytes⟩] :=
      rfl
    refine ⟨rfl, fun outlet => ?_, ?_, fun _ => ⟨_, _, _, rfl⟩⟩
    · have left : ({ s.setPipe { pipe with unread := pipe.unread.drop bytes.length } with
          log := s.log.append bytes } : System).unread outlet = _ :=
        unread_setPipe found (pipe.unread.drop bytes.length) outlet
      rw [left, shown, streamOf_singleton]
      by_cases same : (⟨generation, stream⟩ : Outlet) = outlet
      · subst same
        have whole := List.prefix_iff_eq_append.mp first
        simp [unread_of_pipe? found, whole, Input.writing?]
      · simp [same, Input.writing?]
    · have limit : bytes.length ≤ captureSize := by
        rw [← cut, List.length_take]
        omega
      simpa [shown] using ⟨List.length_pos_iff.mpr nonempty, limit⟩
  | @runWrapper number result =>
    refine .of_unread ?_ rfl rfl fun _ => rfl
    cases result <;> rfl
  | _ => exact .of_unread rfl rfl rfl fun _ => rfl

theorem step?_conveys (coherent : s.Coherent) (step : s.step? i = some (t, more)) :
    s.Conveys i t more := by
  rcases step?_tasks coherent step with detached | ⟨foreign, spares⟩
  · exact detached.conveys
  · refine .of_unread (readings_eq_nil spares.shown) ?_ spares.log spares.pipes.unread
    cases i <;> first | rfl | contradiction

/-- All that has been put into the log. -/
def recording (passed : List Transit) : List UInt8 :=
  (readings (shownIn passed)).flatMap (·.bytes)

/-- How the console output is recorded. -/
structure Transcribed (settings : Settings) (s : System) (passed : List Transit) : Prop where
  /-- What has been written to a stream has been read, in order, or still waits. -/
  read : ∀ outlet, streamOf outlet (writings passed) =
    streamOf outlet (readings (shownIn passed)) ++ s.unread outlet
  size : ∀ chunk ∈ readings (shownIn passed),
    1 ≤ chunk.bytes.length ∧ chunk.bytes.length ≤ captureSize
  /-- A reader can take any number of the bytes that wait. -/
  anySize : ∀ outlet count, 1 ≤ count → count ≤ captureSize → count ≤ (s.unread outlet).length →
    ∃ t, s.step? (.capture outlet.generation outlet.stream count) =
      some (t, [.captured outlet.generation outlet.stream ((s.unread outlet).take count)])
  /-- Each byte that has been read has been put into the log once, after those of its stream that
  were read before. -/
  merged : IsMerge (streamOf · (readings (shownIn passed))) (recording passed)
  log : s.log = ((readings (shownIn passed)).map (·.bytes)).foldl LogBuffer.append
    (.empty settings.logSize)
  suffix : s.log.bytes <:+ recording passed
  least : min (recording passed).length settings.logSize ≤ s.log.bytes.length
  /-- Nothing but the readers touches the log. -/
  untouched : ∀ transit ∈ passed,
    (∀ generation stream count, transit.input ≠ .capture generation stream count) →
    transit.after.log = transit.before.log

variable {settings : Settings} {collaborators : Collaborators}

/-- What waits can be read in pieces of any size. -/
lemma step?_capture {outlet : Outlet} {count : Nat} (positive : 1 ≤ count)
    (limit : count ≤ captureSize) (there : count ≤ (s.unread outlet).length) :
    ∃ t, s.step? (.capture outlet.generation outlet.stream count) =
      some (t, [.captured outlet.generation outlet.stream ((s.unread outlet).take count)]) := by
  cases found : s.pipe? outlet.generation outlet.stream with
  | none =>
    simp only [unread, found, Option.map_none, Option.getD_none, List.length_nil] at there
    omega
  | some pipe =>
    rw [unread_of_pipe? found] at there ⊢
    have nonempty : (pipe.unread.take count).isEmpty = false := by
      rw [List.isEmpty_eq_false_iff, ← List.length_pos_iff, List.length_take]
      omega
    simp only [System.step?, capture, found, Option.bind_some, Nat.min_eq_left limit, nonempty,
      Bool.false_eq_true, if_false]
    exact ⟨_, rfl⟩

/-- The console output keeps its balance over every passage. -/
lemma Passage.conveys (passage : Passage (fresh settings collaborators) s passed) :
    (∀ outlet, streamOf outlet (writings passed) =
      streamOf outlet (readings (shownIn passed)) ++ s.unread outlet) ∧
    (∀ chunk ∈ readings (shownIn passed),
      1 ≤ chunk.bytes.length ∧ chunk.bytes.length ≤ captureSize) ∧
    s.log = ((readings (shownIn passed)).map (·.bytes)).foldl LogBuffer.append
      (.empty settings.logSize) := by
  induction passage with
  | none => exact ⟨fun _ => rfl, by simp, rfl⟩
  | @step s t passed i more passage step ih =>
    obtain ⟨read, size, log⟩ := ih
    have one := step?_conveys (passage.run .none).coherent step
    rw [shownIn_append, shownIn_singleton, readings_append]
    refine ⟨fun outlet => ?_, List.forall_mem_append.mpr ⟨size, one.size⟩, ?_⟩
    · have written : writings (passed ++ [⟨s, i, t, more⟩]) =
          writings passed ++ i.writing?.toList := by
        rw [writings, List.filterMap_append]
        cases came : i.writing? <;> simp [writings, came]
      rw [written, streamOf_append, read, List.append_assoc, one.unread, ← List.append_assoc,
        streamOf_append]
    · rw [one.log, log, List.map_append, List.foldl_append]

lemma Passage.untouched (passage : Passage (fresh settings collaborators) s passed) :
    ∀ transit ∈ passed,
      (∀ generation stream count, transit.input ≠ .capture generation stream count) →
      transit.after.log = transit.before.log := by
  induction passage with
  | none => simp
  | @step s t passed i more passage step ih =>
    refine List.forall_mem_append.mpr ⟨ih, List.forall_mem_singleton.mpr fun other => ?_⟩
    have one := step?_conveys (passage.run .none).coherent step
    have idle : readings more = [] := by
      by_contra some
      obtain ⟨generation, stream, count, reads⟩ := one.reads some
      exact other generation stream count reads
    rw [one.log, idle]
    rfl

/-- What the servers write to their streams is recorded as a merge of them, whatever is done to
the sessions meanwhile. -/
theorem Passage.transcribed (passage : Passage (fresh settings collaborators) s passed) :
    Transcribed settings s passed := by
  obtain ⟨read, size, log⟩ := passage.conveys
  have whole : ((readings (shownIn passed)).map (·.bytes)).flatten = recording passed :=
    List.flatMap_def.symm
  refine ⟨read, size, fun outlet count => step?_capture, isMerge_chunks _, log, ?_, ?_,
    passage.untouched⟩
  · rw [log, ← whole]
    exact LogBuffer.suffix_foldl _
  · rw [log, ← whole]
    exact LogBuffer.min_le_length_foldl _

/-- Both readers of a server are at work, and the log is too small for all that they find. -/
theorem transcribed_overflow :
    ∃ s passed, Passage (fresh { Settings.standard with logSize := 2 } ⟨false, false⟩) s passed ∧
      Transcribed { Settings.standard with logSize := 2 } s passed ∧
      recording passed = [1, 2, 9, 3] ∧ s.log.bytes = [2, 9, 3] := by
  obtain ⟨⟨s, seen⟩, steps, read, log⟩ : ∃ out ∈
      (fresh { Settings.standard with logSize := 2 } ⟨false, false⟩).steps?
        (launchInputs ⟨1, .start ⟨"race"⟩ (.direct ":9000" 9001)⟩ ++
          [.wrote 1 .output [1, 2, 3], .wrote 1 .errors [9], .capture 1 .output 2,
            .capture 1 .errors 4096, .capture 1 .output 4096]),
      (readings out.2).flatMap (·.bytes) = [1, 2, 9, 3] ∧ out.1.log.bytes = [2, 9, 3] := by
    decide
  obtain ⟨passed, passage, shown⟩ := Passage.of_steps steps
  exact ⟨s, passed, passage, passage.transcribed, by rw [recording, shown]; exact read, log⟩

end System
end RaceControl
