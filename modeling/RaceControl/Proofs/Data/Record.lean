import Mathlib.Data.List.Forall2
import Mathlib.Data.List.Perm.Basic
import RaceControl.Data.Datum

/-!
Reading a record by the names of its members. What is read under a name depends on the members of
that name alone: where there is none the default holds, one is read, and two are refused. Members of
other names and the order of the names have no effect.
-/
namespace RaceControl.Datum

variable {α β : Type} {t u : List (String × Datum)} {name : String} {names : List String}

/-- The members of one name, in the order they are written. -/
def named (name : String) (t : List (String × Datum)) : List (String × Datum) :=
  t.filter (·.1 == name)

lemma mem_named {member : String × Datum} :
    member ∈ named name t ↔ member ∈ t ∧ member.1 = name := by
  simp [named]

lemma named_eq_nil_iff : named name t = [] ↔ ∀ d, (name, d) ∉ t := by
  rw [List.eq_nil_iff_forall_not_mem]
  constructor
  · intro absent d written
    exact absent (name, d) (mem_named.mpr ⟨written, rfl⟩)
  · rintro absent ⟨n, d⟩ found
    obtain ⟨written, rfl⟩ := mem_named.mp found
    exact absent d written

/-- In a record that repeats no name, each name has one member at most. -/
lemma length_named_le_one (distinct : (t.map Prod.fst).Nodup) (name : String) :
    (named name t).length ≤ 1 := by
  induction t with
  | nil => simp [named]
  | cons member t ih =>
    obtain ⟨n, d⟩ := member
    obtain ⟨fresh, distinct⟩ := List.nodup_cons.mp distinct
    by_cases same : n = name
    · subst same
      have others : named n t = [] := by
        apply named_eq_nil_iff.mpr
        intro e written
        exact fresh (List.mem_map.mpr ⟨_, written, rfl⟩)
      rw [named] at others
      simp [named, others]
    · have later := ih distinct
      rw [named] at later
      simpa [named, same] using later

lemma named_append (name : String) (t u : List (String × Datum)) :
    named name (t ++ u) = named name t ++ named name u := List.filter_append ..

lemma named_cons_self (name : String) (d : Datum) (t : List (String × Datum)) :
    named name ((name, d) :: t) = (name, d) :: named name t := by
  simp [named]

lemma named_cons_of_ne {other : String} {d : Datum} (ne : other ≠ name) :
    named name ((other, d) :: t) = named name t := by
  simp [named, ne]

/-- In such a record a member is the only one of its name. -/
lemma named_of_mem {d : Datum} (distinct : (t.map Prod.fst).Nodup) (member : (name, d) ∈ t) :
    named name t = [(name, d)] := by
  have few := length_named_le_one distinct name
  have found : (name, d) ∈ named name t := mem_named.mpr ⟨member, rfl⟩
  match all : named name t with
  | [] => simp [all] at found
  | [only] =>
    rw [all, List.mem_singleton] at found
    rw [found]
  | _ :: _ :: _ => simp [all] at few

lemma named_alone_iff {p : Datum → Prop} :
    (named name t = [] ∨ ∃ d, named name t = [(name, d)] ∧ p d) ↔
      (named name t).length ≤ 1 ∧ ∀ d, (name, d) ∈ t → p d := by
  have each : (∀ d, (name, d) ∈ t → p d) ↔ ∀ m ∈ named name t, p m.2 := by
    constructor
    · rintro holds ⟨n, d⟩ found
      obtain ⟨written, rfl⟩ := mem_named.mp found
      exact holds d written
    · intro holds d written
      exact holds (name, d) (mem_named.mpr ⟨written, rfl⟩)
  rw [each]
  match h : named name t with
  | [] => simp
  | [(n, d)] =>
    have found : (n, d) ∈ named name t := by simp [h]
    obtain ⟨-, rfl⟩ := mem_named.mp found
    simp
  | _ :: _ :: _ => simp

/-- What is written under a name; none if it is written more than once. -/
def written? (t : List (String × Datum)) (name : String) : Option (Option Datum) :=
  match named name t with
  | [] => some none
  | [(_, d)] => some (some d)
  | _ => none

lemma written?_eq_some_none_iff : written? t name = some none ↔ named name t = [] := by
  unfold written?
  match named name t with
  | [] => simp
  | [_] => simp
  | _ :: _ :: _ => simp

lemma written?_eq_some_some_iff {d : Datum} :
    written? t name = some (some d) ↔ named name t = [(name, d)] := by
  unfold written?
  match h : named name t with
  | [] => simp
  | [(n, e)] =>
    have found : (n, e) ∈ named name t := by simp [h]
    obtain ⟨-, rfl⟩ := mem_named.mp found
    simp
  | _ :: _ :: _ => simp

lemma align?_record : align? names (.record t) = names.mapM (written? t) := rfl

/-- The order in which the members of a name are written does not matter, as only one is read. -/
lemma written?_eq_of_perm (same : (named name t).Perm (named name u)) :
    written? t name = written? u name := by
  unfold written?
  match h : named name t with
  | [] =>
    rw [h] at same
    rw [same.nil_eq.symm]
  | [member] =>
    rw [h] at same
    rw [List.singleton_perm.mp same]
  | first :: second :: more =>
    rw [h] at same
    have length := same.length_eq
    match h' : named name u with
    | [] | [_] => simp [h'] at length
    | _ :: _ :: _ => rfl

theorem align?_eq_of_perm (same : ∀ name ∈ names, (named name t).Perm (named name u)) :
    align? names (.record t) = align? names (.record u) := by
  rw [align?_record, align?_record]
  induction names with
  | nil => rfl
  | cons name names ih =>
    have first := written?_eq_of_perm (same name List.mem_cons_self)
    have later := ih fun name listed => same name (List.mem_cons_of_mem _ listed)
    rw [List.mapM_cons, List.mapM_cons, first, later]

/-- A value that a record has under a name: the default where nothing is written, else what the one
datum means that is written. -/
def Field (t : List (String × Datum)) (name : String) (default : α) (means : Datum → α → Prop)
    (a : α) : Prop :=
  (named name t = [] ∧ a = default) ∨ ∃ d, named name t = [(name, d)] ∧ means d a

lemma exists_field_iff {default : α} {means : Datum → α → Prop} :
    (∃ a, Field t name default means a) ↔
      named name t = [] ∨ ∃ d, named name t = [(name, d)] ∧ ∃ a, means d a := by
  unfold Field
  constructor
  · rintro ⟨a, ⟨absent, -⟩ | ⟨d, written, meant⟩⟩
    · exact .inl absent
    · exact .inr ⟨d, written, a, meant⟩
  · rintro (absent | ⟨d, written, a, meant⟩)
    · exact ⟨default, .inl ⟨absent, rfl⟩⟩
    · exact ⟨a, .inr ⟨d, written, meant⟩⟩

/-- A member with a default is read as the field, if the reader knows what the written data mean. -/
theorem bind_member?_eq_some_iff {default : α} {read? : Datum → Option α} {means : Datum → α → Prop}
    (reads : ∀ d, (name, d) ∈ t → ∀ a, read? d = some a ↔ means d a) {a : α} :
    (written? t name).bind (member? read? default) = some a ↔ Field t name default means a := by
  rw [Option.bind_eq_some_iff]
  constructor
  · rintro ⟨_ | d, found, read⟩
    · exact .inl ⟨written?_eq_some_none_iff.mp found, (Option.some.inj read).symm⟩
    · have alone := written?_eq_some_some_iff.mp found
      have written : (name, d) ∈ named name t := alone ▸ List.mem_singleton_self _
      exact .inr ⟨d, alone, (reads d (mem_named.mp written).1 a).mp read⟩
  · rintro (⟨absent, rfl⟩ | ⟨d, alone, meant⟩)
    · exact ⟨none, written?_eq_some_none_iff.mpr absent, rfl⟩
    · have written : (name, d) ∈ named name t := alone ▸ List.mem_singleton_self _
      exact ⟨some d, written?_eq_some_some_iff.mpr alone,
        (reads d (mem_named.mp written).1 a).mpr meant⟩

lemma mapM_eq_some_iff {f : α → Option β} {as : List α} {bs : List β} :
    as.mapM f = some bs ↔ List.Forall₂ (fun a b => f a = some b) as bs := by
  induction as generalizing bs with
  | nil => simp [eq_comm]
  | cons a as ih =>
    rw [List.mapM_cons]
    cases bs with
    | nil => simp [Option.bind_eq_some_iff]
    | cons b bs => simp [Option.bind_eq_some_iff, ih]

/-- Reading items one by one, where each value is written in one way. -/
lemma mapM_eq_some_iff_eq_map {f : α → Option β} {g : β → α}
    (inverse : ∀ a b, f a = some b ↔ a = g b) {as : List α} {bs : List β} :
    as.mapM f = some bs ↔ as = bs.map g := by
  simp only [mapM_eq_some_iff, inverse]
  rw [← List.forall₂_eq_eq_eq, List.forall₂_map_right_iff]

lemma mapM_eq_some_map {f : α → Option β} {b : α → β} {as : List α}
    (each : ∀ a ∈ as, f a = some (b a)) : as.mapM f = some (as.map b) := by
  rw [mapM_eq_some_iff, List.forall₂_map_right_iff, List.forall₂_same]
  exact each

lemma exists_forall₂_iff {r : α → β → Prop} {as : List α} :
    (∃ bs, List.Forall₂ r as bs) ↔ ∀ a ∈ as, ∃ b, r a b := by
  induction as with
  | nil => simp
  | cons a as ih =>
    rw [List.forall_mem_cons, ← ih]
    constructor
    · rintro ⟨_, _ | ⟨first, later⟩⟩
      exact ⟨⟨_, first⟩, _, later⟩
    · rintro ⟨⟨b, first⟩, bs, later⟩
      exact ⟨b :: bs, .cons first later⟩

lemma forall₂_and_iff {as : List α} {bs : List β} {p q : α → β → Prop} :
    (List.Forall₂ p as bs ∧ List.Forall₂ q as bs) ↔
      List.Forall₂ (fun a b => p a b ∧ q a b) as bs := by
  induction as generalizing bs with
  | nil => simp
  | cons a as ih =>
    cases bs with
    | nil => simp
    | cons b bs =>
      rw [List.forall₂_cons, List.forall₂_cons, List.forall₂_cons, ← ih, and_and_and_comm]

lemma bool?_eq_some_iff {d : Datum} {b : Bool} : d.bool? = some b ↔ d = .bool b := by
  cases d <;> simp [bool?]

lemma text?_eq_some_iff {d : Datum} {s : String} : d.text? = some s ↔ d = .text s := by
  cases d <;> simp [text?]

lemma listOf?_eq_some_iff {item? : Datum → Option α} {d : Datum} {as : List α} :
    listOf? item? d = some as ↔
      ∃ items, d = .list items ∧ List.Forall₂ (fun item a => item? item = some a) items as := by
  cases d <;> simp [listOf?, mapM_eq_some_iff]

lemma texts_eq_some_iff {d : Datum} {texts : List String} :
    listOf? text? d = some texts ↔ d = .list (texts.map .text) := by
  cases d with
  | list items =>
    have read : items.mapM text? = some texts ↔ items = texts.map .text :=
      mapM_eq_some_iff_eq_map fun _ _ => text?_eq_some_iff
    simp [listOf?, read]
  | _ => simp [listOf?]

lemma below?_eq_some_iff {limit n : Nat} {d : Datum} :
    d.below? limit = some n ↔ d = .int n ∧ n < limit := by
  cases d with
  | int m =>
    simp only [below?, Option.ite_none_right_eq_some, Option.some.injEq, Datum.int.injEq]
    omega
  | _ => simp [below?]

end RaceControl.Datum
