import Mathlib.Data.List.Basic
import RaceControl.LineReader
import RaceControl.Proofs.Text.Utf8

/-!
The lines that are read from a stream of bytes. However the stream is cut, they are its lines in
front of the first one that is not the encoding of a text.
-/
namespace RaceControl.LineReader
variable {r : LineReader} {line bytes : List UInt8}

/-- The lines of a stream, from the pieces between its line feeds. What is behind the last line feed
has no end that could be removed, and is a line if it is not empty. -/
def ofPieces : List (List UInt8) → List (List UInt8)
  | [] => []
  | [rest] => if rest = [] then [] else [rest]
  | piece :: pieces => stripReturn piece :: ofPieces pieces

def linesOf (stream : List UInt8) : List (List UInt8) := ofPieces (stream.splitOn 10)

lemma linesOf_of_not_mem (absent : 10 ∉ line) : linesOf line = if line = [] then [] else [line] := by
  rw [linesOf, List.splitOn_eq_singleton absent, ofPieces]

lemma linesOf_append (absent : 10 ∉ line) (rest : List UInt8) :
    linesOf (line ++ 10 :: rest) = stripReturn line :: linesOf rest := by
  rw [linesOf, List.splitOn_append_cons_self_of_not_mem absent]
  exact ofPieces.eq_3 _ _ (List.splitOn_ne_nil 10 rest)

/-- A stream is a line with its line feed in front of another stream, or has no line feed. -/
@[elab_as_elim]
lemma stream_induction {p : List UInt8 → Prop} (last : ∀ line, 10 ∉ line → p line)
    (step : ∀ line rest, 10 ∉ line → p rest → p (line ++ 10 :: rest)) (stream : List UInt8) :
    p stream := by
  induction size : stream.length using Nat.strongRecOn generalizing stream with
  | ind n ih =>
    by_cases feeds : 10 ∈ stream
    · obtain ⟨line, rest, rfl, absent⟩ := List.eq_append_cons_of_mem feeds
      refine step line rest absent (ih rest.length ?_ rest rfl)
      rw [← size, List.length_append, List.length_cons]
      omega
    · exact last stream feeds

/-! ## Reading bytes -/

lemma feed_append (r : LineReader) (front back : List UInt8) :
    r.feed (front ++ back) =
      (((r.feed front).1.feed back).1, (r.feed front).2 ++ ((r.feed front).1.feed back).2) := by
  induction front generalizing r with
  | nil => rfl
  | cons b front ih => simp only [List.cons_append, feed, ih, List.append_assoc]

lemma feed_of_hasStopped (stopped : r.hasStopped) (bytes : List UInt8) : r.feed bytes = (r, []) := by
  induction bytes with
  | nil => rfl
  | cons b bytes ih =>
    have refused : r.push b = (r, none) := if_pos stopped
    simp only [feed, refused, ih]
    rfl

/-- As long as no line feed comes the bytes are kept. -/
lemma feed_of_not_mem (begun : List UInt8) (absent : 10 ∉ bytes) :
    feed ⟨begun, false⟩ bytes = (⟨begun ++ bytes, false⟩, []) := by
  induction bytes generalizing begun with
  | nil => simp [feed]
  | cons b bytes ih =>
    rw [List.mem_cons, not_or] at absent
    have kept : push ⟨begun, false⟩ b = (⟨begun ++ [b], false⟩, none) := by
      simp [push, Ne.symm absent.1]
    simp only [feed, kept, ih (begun ++ [b]) absent.2, List.append_assoc]
    rfl

/-- The first line feed decides whether anything behind it is read. -/
lemma feed_line (absent : 10 ∉ line) (rest : List UInt8) :
    fresh.feed (line ++ 10 :: rest) =
      match Utf8.decode? (stripReturn line) with
      | some text => ((fresh.feed rest).1, text :: (fresh.feed rest).2)
      | none => (⟨[], true⟩, []) := by
  rw [feed_append, fresh, feed_of_not_mem [] absent, List.nil_append, List.nil_append, feed]
  have pushed : push ⟨line, false⟩ 10 =
      match Utf8.decode? (stripReturn line) with
      | some text => (fresh, some text)
      | none => (⟨[], true⟩, none) :=
    rfl
  rw [pushed]
  cases Utf8.decode? (stripReturn line) with
  | some text => rfl
  | none =>
    simp only [feed_of_hasStopped (r := ⟨[], true⟩) rfl rest]
    rfl

/-! ## The lines that are read -/

/-- The texts of lines, up to the first that has none. -/
def legible : List (List UInt8) → List (List Char)
  | [] => []
  | line :: lines =>
    match Utf8.decode? line with
    | some text => text :: legible lines
    | none => []

/-- All lines that a reader gives for a stream that ends. -/
def readAll (r : LineReader) (stream : List UInt8) : List (List Char) :=
  (r.feed stream).2 ++ (r.feed stream).1.finish.toList

lemma readAll_append (r : LineReader) (front back : List UInt8) :
    r.readAll (front ++ back) = (r.feed front).2 ++ (r.feed front).1.readAll back := by
  rw [readAll, readAll, feed_append, List.append_assoc]

lemma readAll_of_hasStopped (stopped : r.hasStopped) (stream : List UInt8) :
    r.readAll stream = [] := by
  rw [readAll, feed_of_hasStopped stopped, finish, if_pos (.inl stopped)]
  rfl

/-- What is read of a stream from its beginning. -/
lemma readAll_fresh (stream : List UInt8) : fresh.readAll stream = legible (linesOf stream) := by
  induction stream using stream_induction with
  | last line absent =>
    rw [readAll, fresh, feed_of_not_mem [] absent, linesOf_of_not_mem absent, List.nil_append,
      List.nil_append, finish]
    by_cases empty : line = []
    · simp [empty, legible]
    · cases decoded : Utf8.decode? line <;> simp [empty, legible, decoded]
  | step line rest absent ih =>
    rw [readAll, feed_line absent, linesOf_append absent, legible]
    cases Utf8.decode? (stripReturn line) with
    | some text =>
      rw [← ih]
      rfl
    | none => rfl

/-- Lines are the encodings of the texts that are read from them and then, if any are left, a line
that encodes none. -/
lemma legible_spec (lines : List (List UInt8)) :
    ∃ unread, lines = (legible lines).map Utf8.encode ++ unread ∧
      ∀ line ∈ unread.head?, ¬∃ text, Utf8.encode text = line := by
  induction lines with
  | nil => exact ⟨[], rfl, by simp⟩
  | cons line lines ih =>
    rw [legible]
    cases decoded : Utf8.decode? line with
    | some text =>
      obtain ⟨unread, whole, illegible⟩ := ih
      refine ⟨unread, ?_, illegible⟩
      rw [List.map_cons, List.cons_append, ← whole, Utf8.decode?_eq_some_iff.mp decoded]
    | none =>
      refine ⟨line :: lines, rfl, ?_⟩
      rintro _ ⟨⟩ ⟨text, encoded⟩
      rw [Utf8.decode?_eq_some_iff.mpr encoded] at decoded
      contradiction

end RaceControl.LineReader
