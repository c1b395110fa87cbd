import Mathlib.Data.List.DropRight
import Mathlib.Data.List.Induction
import RaceControl.LogBuffer
import RaceControl.Proofs.Text.Utf8

/-!
What a log buffer holds after any number of writes: the newest bytes of all but the last write, and
the last one in full. As a text, this is the end of what was written, but for one character that may
have been cut.
-/
namespace RaceControl.LogBuffer
variable {maxSize : Nat}

@[simp] lemma maxSize_append (b : LogBuffer) (data : List UInt8) :
    (b.append data).maxSize = b.maxSize := rfl

@[simp] lemma bytes_append (b : LogBuffer) (data : List UInt8) :
    (b.append data).bytes = b.kept ++ data := rfl

lemma foldl_append_concat (b : LogBuffer) (writes : List (List UInt8)) (data : List UInt8) :
    (writes ++ [data]).foldl append b = (writes.foldl append b).append data := by
  rw [List.foldl_append, List.foldl_cons, List.foldl_nil]

@[simp] lemma maxSize_foldl (b : LogBuffer) (writes : List (List UInt8)) :
    (writes.foldl append b).maxSize = b.maxSize := by
  induction writes using List.reverseRecOn with
  | nil => rfl
  | append_singleton writes data ih => rw [foldl_append_concat, maxSize_append, ih]

/-- What survives the next write is the end of all that has been written. -/
lemma kept_foldl (maxSize : Nat) (writes : List (List UInt8)) :
    (writes.foldl append (.empty maxSize)).kept =
      writes.flatten.drop (writes.flatten.length - maxSize) := by
  induction writes using List.reverseRecOn with
  | nil => rfl
  | append_singleton writes data ih =>
    have size : (writes.foldl append (.empty maxSize)).maxSize = maxSize := maxSize_foldl ..
    rw [foldl_append_concat, kept, maxSize_append, bytes_append, ih, size]
    set total := writes.flatten
    have cut : total.drop (total.length - maxSize) ++ data =
        (total ++ data).drop (total.length - maxSize) :=
      (List.drop_append_of_le_length (Nat.sub_le ..)).symm
    rw [cut, List.drop_drop, List.flatten_append, List.flatten_singleton, List.length_drop,
      List.length_append]
    congr 1
    omega

/-- After at least one write nothing is missing but the oldest bytes of those before it. -/
lemma bytes_foldl_concat (maxSize : Nat) (writes : List (List UInt8)) (data : List UInt8) :
    ((writes ++ [data]).foldl append (.empty maxSize)).bytes =
      (writes.flatten ++ data).drop (writes.flatten.length - maxSize) := by
  rw [foldl_append_concat, bytes_append, kept_foldl, List.drop_append_of_le_length (Nat.sub_le ..)]

lemma suffix_foldl (writes : List (List UInt8)) :
    (writes.foldl append (.empty maxSize)).bytes <:+ writes.flatten := by
  induction writes using List.reverseRecOn with
  | nil => exact List.nil_suffix
  | append_singleton writes data =>
    rw [bytes_foldl_concat, List.flatten_append, List.flatten_singleton]
    exact List.drop_suffix ..

/-- As many of the newest bytes are held as the limit allows. -/
lemma min_le_length_foldl (writes : List (List UInt8)) :
    min writes.flatten.length maxSize ≤ (writes.foldl append (.empty maxSize)).bytes.length := by
  induction writes using List.reverseRecOn with
  | nil => exact Nat.min_le_left ..
  | append_singleton writes data =>
    rw [bytes_foldl_concat, List.flatten_append, List.flatten_singleton]
    simp only [List.length_drop, List.length_append]
    omega

/-! ## Writes, however they are made -/

/-- One write: by the buffer's own operation, or as to any sink. -/
inductive Write
  | direct (data : List UInt8)
  | sink (data : List UInt8)
  deriving DecidableEq, Repr

namespace Write

def data : Write → List UInt8
  | .direct data | .sink data => data

/-- Makes a write, with what is reported of it. -/
def make (b : LogBuffer) : Write → Except OsError Nat × LogBuffer
  | .direct data =>
    let (written, b) := b.write data
    (.ok written, b)
  | .sink data => b.accept data

/-- All that has been written, however it was divided. -/
def total (writes : List Write) : List UInt8 := writes.flatMap data

lemma total_concat (writes : List Write) (last : Write) :
    total (writes ++ [last]) = total writes ++ last.data := by
  simp [total]

lemma flatten_map_data (writes : List Write) : (writes.map data).flatten = total writes := rfl

end Write

/-- Makes writes one after another, with the reports of all of them. -/
def makeAll (b : LogBuffer) : List Write → List (Except OsError Nat) × LogBuffer
  | [] => ([], b)
  | write :: rest =>
    let (report, b) := write.make b
    let (reports, b) := b.makeAll rest
    (report :: reports, b)

lemma makeAll_eq (b : LogBuffer) (writes : List Write) :
    b.makeAll writes =
      (writes.map fun w => .ok w.data.length, (writes.map Write.data).foldl append b) := by
  induction writes generalizing b with
  | nil => rfl
  | cons w rest ih =>
    have made : w.make b = (.ok w.data.length, b.append w.data) := by cases w <;> rfl
    simp only [makeAll, made, ih, List.map_cons, List.foldl_cons]

lemma makeAll_snd (b : LogBuffer) (writes : List Write) :
    (b.makeAll writes).2 = (writes.map Write.data).foldl append b := by
  rw [makeAll_eq]

/-- How many of the oldest bytes are dropped by the last of some writes. -/
def evicted (maxSize : Nat) (writes : List Write) : Nat :=
  (Write.total writes.dropLast).length - maxSize

lemma bytes_makeAll (maxSize : Nat) (writes : List Write) :
    ((empty maxSize).makeAll writes).2.bytes =
      (Write.total writes).drop (evicted maxSize writes) := by
  rw [makeAll_snd]
  induction writes using List.reverseRecOn with
  | nil => exact List.drop_nil.symm
  | append_singleton earlier last =>
    rw [List.map_append, List.map_singleton, bytes_foldl_concat, Write.flatten_map_data,
      Write.total_concat, evicted, List.dropLast_concat]

lemma evicted_le (maxSize : Nat) (writes : List Write) :
    evicted maxSize writes ≤ (Write.total writes).length - maxSize := by
  induction writes using List.reverseRecOn with
  | nil => exact Nat.le_refl _
  | append_singleton earlier last =>
    rw [evicted, List.dropLast_concat, Write.total_concat, List.length_append]
    omega

/-- The newest bytes are the same in all that ends in the same way. -/
lemma rtake_drop {bytes : List UInt8} {n k : Nat} (within : n + k ≤ bytes.length) :
    (bytes.drop n).rtake k = bytes.rtake k := by
  rw [List.rtake, List.rtake, List.drop_drop, List.length_drop]
  congr 1
  omega

/-- The newest bytes, up to the limit, do not depend on how the whole was divided. -/
lemma rtake_makeAll (maxSize : Nat) (writes : List Write) :
    ((empty maxSize).makeAll writes).2.bytes.rtake (min maxSize (Write.total writes).length) =
      (Write.total writes).rtake (min maxSize (Write.total writes).length) := by
  have few := evicted_le maxSize writes
  rw [bytes_makeAll, rtake_drop (by omega)]

/-- What a buffer holds when, after all else, `last` has been written at once. -/
structure Holds (maxSize : Nat) (before last : List UInt8) (b : LogBuffer) : Prop where
  bytes : b.bytes = before.rtake (min maxSize before.length) ++ last
  suffix : b.bytes <:+ before ++ last
  whole : last <:+ b.bytes
  newest : (before ++ last).rtake (min maxSize (before ++ last).length) <:+ b.bytes
  size_le : b.size ≤ maxSize + last.length
  /-- It agrees with any buffer to which the same has been written in other pieces. -/
  agrees : ∀ others, Write.total others = before ++ last →
    ((empty maxSize).makeAll others).2.bytes.rtake (min maxSize (before ++ last).length) =
      b.bytes.rtake (min maxSize (before ++ last).length)

theorem holds_makeAll (maxSize : Nat) (earlier : List Write) (last : Write) :
    ((empty maxSize).makeAll (earlier ++ [last])).1 =
        (earlier ++ [last]).map (fun w => .ok w.data.length) ∧
      Holds maxSize (Write.total earlier) last.data
        ((empty maxSize).makeAll (earlier ++ [last])).2 := by
  have held := bytes_makeAll maxSize (earlier ++ [last])
  have newest := rtake_makeAll maxSize (earlier ++ [last])
  rw [evicted, List.dropLast_concat, Write.total_concat] at held
  rw [Write.total_concat] at newest
  set before := Write.total earlier
  set b := ((empty maxSize).makeAll (earlier ++ [last])).2
  have closed : b.bytes = before.rtake (min maxSize before.length) ++ last.data := by
    rw [held, List.drop_append_of_le_length (Nat.sub_le ..), List.rtake]
    congr 2
    omega
  refine ⟨by rw [makeAll_eq], closed, ?_, ?_, ?_, ?_, fun others same => ?_⟩
  · exact held ▸ List.drop_suffix ..
  · exact closed ▸ List.suffix_append ..
  · exact newest ▸ List.drop_suffix ..
  · rw [size, closed, List.length_append, List.rtake, List.length_drop]
    omega
  · rw [newest, ← same, rtake_makeAll]

/-! ## The buffer as a text -/

/-- What a buffer keeps of a text of whose encoding it has lost the first bytes. -/
structure Salvages (text : List Char) (lost : Nat) (orphans : List UInt8) (left : List Char)
    (b : LogBuffer) : Prop where
  cut : Utf8.Cut text lost orphans left
  few : orphans.length ≤ 3
  bytes : b.bytes = (Utf8.encode text).drop lost ∧ b.bytes = orphans ++ Utf8.encode left
  text : b.text = String.ofList (List.replicate orphans.length Utf8.replacement ++ left)

theorem salvages_makeAll (maxSize : Nat) (text : String) (writes : List Write)
    (whole : Write.total writes = Utf8.encode text.toList) :
    ∃ orphans left, Salvages text.toList (evicted maxSize writes) orphans left
      ((empty maxSize).makeAll writes).2 := by
  have held := bytes_makeAll maxSize writes
  have few := evicted_le maxSize writes
  rw [whole] at held few
  obtain ⟨orphans, left, cut⟩ :=
    Utf8.Cut.exists_of_le (evicted maxSize writes) text.toList (by omega)
  have rest := held.trans cut.drop_encode
  refine ⟨orphans, left, cut, cut.length_le, ⟨held, rest⟩, ?_⟩
  rw [LogBuffer.text, rest, Utf8.decodeLossy_append_encode cut.isContinuation]

/-- Of the first euro sign only the last byte is left. -/
theorem salvages_severed :
    ∃ writes : List Write,
      writes = [.direct [226, 130], .sink [172, 226, 130, 172], .direct [120]] ∧
      Write.total writes = Utf8.encode "€€x".toList ∧
      (∃ orphans left, Salvages "€€x".toList 2 orphans left ((empty 4).makeAll writes).2) ∧
      ((empty 4).makeAll writes).2.bytes = [172, 226, 130, 172, 120] ∧
      ((empty 4).makeAll writes).2.text = "\uFFFD€x" := by
  let writes : List Write := [.direct [226, 130], .sink [172, 226, 130, 172], .direct [120]]
  have whole : Write.total writes = Utf8.encode "€€x".toList := by decide
  exact ⟨writes, rfl, whole, salvages_makeAll 4 "€€x" writes whole, by decide, by decide⟩

end RaceControl.LogBuffer
