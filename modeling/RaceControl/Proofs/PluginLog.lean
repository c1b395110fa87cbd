import RaceControl.Proofs.LineReader
import RaceControl.Rehearsal.PluginLog

/-!
What is forwarded of one output of a plugin, from its first byte to its end.
-/
namespace RaceControl.Rehearsal.PluginLog
open Host LineReader
variable {w : Watch} {m : Machine} {chunks : List (List UInt8)} {lines : List String}

/-- An output that is watched to its end: it arrives in these chunks, and these lines are forwarded
of it. What comes after the end of the watch is taken by nobody, and there is nothing of it where
the output was exhausted. -/
inductive Forwards : Watch → List (List UInt8) → List String → Prop
  | ends {w : Watch} {m after : Machine} {lines : List String} {rest : List (List UInt8)} :
    readOne m w = (after, Option.none, lines) →
    ((m.drain w.conduit).2.isExhausted w.conduit = true → rest = []) →
    Forwards w ((m.drain w.conduit).1 :: rest) lines
  | goesOn {w left : Watch} {m after : Machine} {lines more : List String}
    {rest : List (List UInt8)} : readOne m w = (after, some left, lines) →
    Forwards left rest more → Forwards w ((m.drain w.conduit).1 :: rest) (lines ++ more)

lemma readOne_snd (m : Machine) (w : Watch) :
    (readOne m w).2 =
      let bytes := (m.drain w.conduit).1
      let reader := (w.reader.feed bytes).1
      let lines := (w.reader.feed bytes).2.map (forwarded w.name)
      if reader.hasStopped then (Option.none, lines)
      else if (m.drain w.conduit).2.isExhausted w.conduit then
        (Option.none, lines ++ (reader.finish.map (forwarded w.name)).toList)
      else (some { w with reader }, lines) := by
  unfold readOne
  dsimp only
  split_ifs <;> rfl

/-- Each read forwards what the reader gives, and the last one what the reader has left. -/
lemma Forwards.eq_readAll (forwards : Forwards w chunks lines) :
    lines = (w.reader.readAll chunks.flatten).map (forwarded w.name) := by
  induction forwards with
  | @ends w m after lines rest read complete =>
    have outcome := readOne_snd m w
    rw [read] at outcome
    dsimp only at outcome
    rw [List.flatten_cons, readAll_append, List.map_append]
    split_ifs at outcome with stopped exhausted
    · rw [readAll_of_hasStopped stopped, List.map_nil, List.append_nil]
      exact (Prod.mk.inj outcome).2
    · rw [complete exhausted, List.flatten_nil, (Prod.mk.inj outcome).2, readAll, feed]
      simp [Option.toList_map]
    · cases outcome
  | @goesOn w left m after lines more rest read _ ih =>
    have outcome := readOne_snd m w
    rw [read] at outcome
    dsimp only at outcome
    rw [List.flatten_cons, readAll_append, List.map_append]
    split_ifs at outcome with stopped exhausted
    · cases outcome
    · cases outcome
    · cases outcome
      rw [ih]

/-! ## Every stream in every cut -/

/-- A machine of which nothing is left but one pipe and the processes that may write to it. -/
def pipeline (conduit : Nat) (bytes : List UInt8) (writers : List Process) : Machine :=
  { Machine.boot [] with processes := writers, conduits := [⟨conduit, bytes, true⟩] }

/-- A process that has not yet come to its end. -/
def writer (conduit : Nat) : Process where
  pid := 1
  start := 0
  activity := .sleep 0
  environment := []
  cwd := []
  descriptors := ⟨.null, .pipe conduit, .null⟩
  ignored := []
  pending := []
  ended := Option.none

lemma drain_pipeline (conduit : Nat) (bytes : List UInt8) (writers : List Process) :
    (pipeline conduit bytes writers).drain conduit = (bytes, pipeline conduit [] writers) := by
  simp [Machine.drain, Machine.conduit?, Machine.setConduit, pipeline]

lemma isExhausted_pipeline (conduit : Nat) :
    (pipeline conduit [] []).isExhausted conduit = true := by
  simp [Machine.isExhausted, Machine.hasWriter, Machine.conduit?, pipeline]

lemma not_isExhausted_pipeline (conduit : Nat) :
    (pipeline conduit [] [writer conduit]).isExhausted conduit = false := by
  simp [Machine.isExhausted, Machine.hasWriter, Machine.isLive, pipeline, writer]

/-- Whatever the chunks are, a machine can write them one after another and then end. -/
lemma exists_forwards (w : Watch) (written : chunks ≠ []) : ∃ lines, Forwards w chunks lines := by
  induction chunks generalizing w with
  | nil => exact absurd rfl written
  | cons bytes rest ih =>
    have busy := readOne_snd (pipeline w.conduit bytes [writer w.conduit]) w
    have last := readOne_snd (pipeline w.conduit bytes []) w
    rw [drain_pipeline] at busy last
    dsimp only at busy last
    rw [not_isExhausted_pipeline] at busy
    rw [isExhausted_pipeline] at last
    by_cases stopped : (w.reader.feed bytes).1.hasStopped
    · rw [if_pos stopped] at busy
      have ended : _ → Forwards w (_ :: rest) _ := Forwards.ends (Prod.ext rfl busy)
      rw [drain_pipeline] at ended
      refine ⟨_, ended fun exhausted => ?_⟩
      rw [not_isExhausted_pipeline] at exhausted
      contradiction
    · rw [if_neg stopped] at busy last
      by_cases complete : rest = []
      · have ended : _ → Forwards w (_ :: rest) _ := Forwards.ends (Prod.ext rfl last)
        rw [drain_pipeline] at ended
        exact ⟨_, ended fun _ => complete⟩
      · obtain ⟨lines, forwards⟩ := ih { w with reader := (w.reader.feed bytes).1 } complete
        have going := Forwards.goesOn (Prod.ext rfl busy) forwards
        rw [drain_pipeline] at going
        exact ⟨_, going⟩

/-- An output is forwarded in one way, whatever its chunks are. -/
lemma forwards_iff {name : String} {conduit : Nat} (written : chunks ≠ []) :
    Forwards ⟨name, conduit, .fresh⟩ chunks lines ↔
      lines = (legible (linesOf chunks.flatten)).map (forwarded name) := by
  have given {lines : List String} (forwards : Forwards ⟨name, conduit, .fresh⟩ chunks lines) :
      lines = (legible (linesOf chunks.flatten)).map (forwarded name) := by
    rw [forwards.eq_readAll, readAll_fresh]
  constructor
  · exact given
  · rintro rfl
    obtain ⟨lines, forwards⟩ := exists_forwards ⟨name, conduit, .fresh⟩ written
    rwa [given forwards] at forwards

/-- Of an output that arrives in any chunks its lines are forwarded, each once and in order, up to
the first that is the encoding of no text. -/
theorem forwards_legible (name : String) (conduit : Nat) (chunks : List (List UInt8))
    (written : chunks ≠ []) :
    (∀ lines, Forwards ⟨name, conduit, .fresh⟩ chunks lines ↔
      lines = (legible (linesOf chunks.flatten)).map fun text =>
        "[" ++ name ++ "] " ++ String.ofList text) ∧
    ∃ unread, linesOf chunks.flatten = (legible (linesOf chunks.flatten)).map Utf8.encode ++ unread ∧
      ∀ line ∈ unread.head?, ¬∃ text, Utf8.encode text = line :=
  ⟨fun _ => forwards_iff written, legible_spec _⟩

/-- A line, bytes that encode no text, and another line, cut in two places. -/
def garbled : List (List UInt8) := [[111, 107, 13], [10, 255, 98, 10, 97], [102]]

theorem forwards_garbled :
    linesOf garbled.flatten = [[111, 107], [255, 98], [97, 102]] ∧
      Forwards ⟨"sh", 0, .fresh⟩ garbled ["[sh] ok"] := by
  refine ⟨by decide, ((forwards_legible "sh" 0 garbled (by decide)).1 _).mpr ?_⟩
  decide

/-- So a line that is a text is not always forwarded. -/
theorem not_forall_forwarded :
    ¬∀ name conduit chunks lines, Forwards ⟨name, conduit, .fresh⟩ chunks lines →
      List.Sublist (((linesOf chunks.flatten).filterMap Utf8.decode?).map (forwarded name)) lines := by
  intro all
  have forwards : Forwards ⟨"sh", 0, .fresh⟩ garbled ["[sh] ok"] :=
    (forwards_iff (by decide)).mpr (by decide)
  have sublist := all _ _ _ _ forwards
  revert sublist
  decide

end RaceControl.Rehearsal.PluginLog
