import Mathlib.Data.List.TakeDrop
import RaceControl.Toml.Tables

/-!
Whole numbers of a document. A number that does not fit sixty-four bits, one of them for the sign,
makes its document invalid wherever it stands, so that none is found in the record of a document.
-/
namespace RaceControl

/-- Every whole number in a datum has sixty-four bits, one of them for the sign. -/
inductive Datum.Fits : Datum → Prop
  | null : Fits .null
  | bool (b : Bool) : Fits (.bool b)
  | int {n : Int} (low : -0x8000000000000000 ≤ n) (high : n < 0x8000000000000000) : Fits (.int n)
  | float (x : Float) : Fits (.float x)
  | text (s : String) : Fits (.text s)
  | unreadable : Fits .unreadable
  | list {items : List Datum} (fit : ∀ d ∈ items, Fits d) : Fits (.list items)
  | record {members : List (String × Datum)} (fit : ∀ m ∈ members, Fits m.2) :
    Fits (.record members)

namespace Toml

namespace Number

lemma fits_of_integer? {base : Nat} {cs : List Char} {d : Datum}
    (read : integer? base cs = some d) : d.Fits := by
  simp only [integer?, Option.bind_eq_bind, Option.bind_eq_some_iff, Option.ite_none_right_eq_some,
    Option.some.injEq] at read
  obtain ⟨_, -, ⟨-, low, high⟩, rfl⟩ := read
  exact .int low high

lemma fits_of_float? {cs : List Char} {fraction : Option (List Char)} {tokens rest : List Token}
    {d : Datum} (read : float? cs fraction tokens = some (d, rest)) : d.Fits := by
  simp only [float?, Option.bind_eq_bind, Option.bind_eq_some_iff, Option.pure_def] at read
  obtain ⟨_, -, read⟩ := read
  split at read
  · simp only [Option.bind_eq_some_iff, Option.ite_none_left_eq_some, Option.some.injEq,
      Prod.mk.injEq] at read
    obtain ⟨_, -, _, -, -, rfl, -⟩ := read
    exact .float _
  · split at read
    · simp only [Option.bind_eq_some_iff, Option.ite_none_left_eq_some, Option.some.injEq,
        Prod.mk.injEq] at read
      obtain ⟨_, -, _, -, -, rfl, -⟩ := read
      exact .float _
    · simp at read

lemma fits_of_ofWord? {cs : List Char} {tokens rest : List Token} {d : Datum}
    (read : ofWord? cs tokens = some (d, rest)) : d.Fits := by
  have whole : ∀ base ds, (integer? base ds).map (·, tokens) = some (d, rest) → d.Fits := by
    intro base ds digits
    simp only [Option.map_eq_some_iff, Prod.mk.injEq] at digits
    obtain ⟨_, digits, rfl, -⟩ := digits
    exact fits_of_integer? digits
  unfold ofWord? at read
  split at read
  · exact whole 16 _ read
  · exact whole 8 _ read
  · exact whole 2 _ read
  · split at read
    · exact fits_of_float? read
    · split at read
      · exact fits_of_float? read
      · simp at read
      · split at read
        · cases read
          exact .float _
        · cases read
          exact .float _
        · cases read
          exact .float _
        · cases read
          exact .float _
        · exact whole 10 _ read

end Number

lemma Date.fits_datum (text : List Char) : (Date.datum text).Fits := by
  apply Datum.Fits.record
  intro m written
  obtain rfl := List.mem_singleton.mp written
  exact .text _

lemma fits_of_numberOrDate? {cs : List Char} {tokens rest : List Token} {d : Datum}
    (read : numberOrDate? cs tokens = some (d, rest)) : d.Fits := by
  unfold numberOrDate? at read
  split at read
  · simp only [Date.ofWord?, Option.bind_eq_bind, Option.bind_eq_some_iff, Option.pure_def,
      Option.some.injEq, Prod.mk.injEq] at read
    obtain ⟨_, -, rfl, -⟩ := read
    exact Date.fits_datum _
  · split at read
    · simp only [Date.ofHour?, Option.bind_eq_bind, Option.bind_eq_some_iff, Option.pure_def,
        Option.some.injEq, Prod.mk.injEq] at read
      obtain ⟨_, -, rfl, -⟩ := read
      exact Date.fits_datum _
    · exact Number.fits_of_ofWord? read

lemma fits_of_scalar? {tokens rest : List Token} {d : Datum}
    (read : scalar? tokens = some (d, rest)) : d.Fits := by
  unfold scalar? at read
  split at read
  · cases read
    exact .text _
  · exact Number.fits_of_ofWord? read
  · split at read
    · cases read
      exact .bool _
    · cases read
      exact .bool _
    · exact fits_of_numberOrDate? read
    · exact fits_of_numberOrDate? read
    · split at read
      · rw [Option.ite_none_right_eq_some] at read
        exact fits_of_numberOrDate? read.2
      · simp at read
  · simp at read

/-! Values and the entries that they make up. -/

lemma datums_eq_map (vs : List Value) : datums vs = vs.map Value.datum := by
  induction vs with
  | nil => rfl
  | cons v vs ih => rw [datums, ih, List.map_cons]

lemma members_eq_map (entries : List (String × Value)) :
    members entries = entries.map fun e => (e.1, e.2.datum) := by
  induction entries with
  | nil => rfl
  | cons e entries ih => rw [members, ih, List.map_cons]

/-- Every whole number in the values of some entries has sixty-four bits. -/
def Fit (entries : List (String × Value)) : Prop := ∀ e ∈ entries, e.2.datum.Fits

lemma Fit.members {entries : List (String × Value)} (fit : Fit entries) :
    ∀ m ∈ members entries, m.2.Fits := by
  intro m written
  rw [members_eq_map] at written
  obtain ⟨e, entry, rfl⟩ := List.mem_map.mp written
  exact fit e entry

lemma Fit.record {entries : List (String × Value)} (fit : Fit entries) :
    (Datum.record (Toml.members entries)).Fits := .record fit.members

lemma Fit.of_record {entries : List (String × Value)}
    (fits : (Datum.record (Toml.members entries)).Fits) : Fit entries := by
  cases fits with
  | record fit =>
    intro e entry
    apply fit (e.1, e.2.datum)
    rw [members_eq_map]
    exact List.mem_map_of_mem entry

lemma Fit.nil : Fit [] := by
  intro e entry
  cases entry

lemma fit_append_iff {before after : List (String × Value)} :
    Fit (before ++ after) ↔ Fit before ∧ Fit after := List.forall_mem_append

lemma fit_cons_iff {e : String × Value} {entries : List (String × Value)} :
    Fit (e :: entries) ↔ e.2.datum.Fits ∧ Fit entries := List.forall_mem_cons

lemma Fit.singleton {key : String} {v : Value} (fits : v.datum.Fits) : Fit [(key, v)] :=
  fit_cons_iff.mpr ⟨fits, .nil⟩

lemma Fit.insert? {key : List String} {entries more : List (String × Value)} {v : Value}
    (fit : Fit entries) (fits : v.datum.Fits) (inserted : insert? entries key v = some more) :
    Fit more := by
  induction key generalizing entries more with
  | nil => simp [Toml.insert?] at inserted
  | cons key keys ih =>
    cases keys with
    | nil =>
      cases inserted
      exact fit_append_iff.mpr ⟨fit, .singleton fits⟩
    | cons next keys =>
      rw [Toml.insert?, List.span_eq_takeWhile_dropWhile] at inserted
      · split at inserted
        next before rest parts =>
          obtain ⟨rfl, rest_eq⟩ := Prod.mk.inj parts
          have whole := List.takeWhile_append_dropWhile (p := (·.1 != key)) (l := entries)
          rw [rest_eq] at whole
          obtain ⟨earlier, later⟩ := fit_append_iff.mp (whole ▸ fit)
          split at inserted
          next =>
            obtain ⟨inner, made, rfl⟩ := Option.map_eq_some_iff.mp inserted
            have entered : (Value.dotted inner).datum.Fits := (ih .nil made).record
            exact fit_append_iff.mpr ⟨fit, .singleton entered⟩
          next old after =>
            obtain ⟨inner, made, rfl⟩ := Option.map_eq_some_iff.mp inserted
            obtain ⟨extended, later⟩ := fit_cons_iff.mp later
            have entered : (Value.dotted inner).datum.Fits := (ih (.of_record extended) made).record
            exact fit_append_iff.mpr ⟨earlier, fit_cons_iff.mpr ⟨entered, later⟩⟩
          next => cases inserted
      · simp

/-- The values that a reader with so much fuel takes from tokens fit, one reader for each form. -/
structure ValuesFit (fuel : Nat) : Prop where
  value : ∀ {tokens rest v}, value? fuel tokens = some (v, rest) → v.datum.Fits
  items : ∀ {tokens rest vs}, items? fuel tokens = some (vs, rest) → ∀ v ∈ vs, v.datum.Fits
  pairs : ∀ {entries tokens rest more}, Fit entries →
    pairs? fuel entries tokens = some (more, rest) → Fit more

lemma fits_list {vs : List Value} (fit : ∀ v ∈ vs, v.datum.Fits) : (Value.list vs).datum.Fits := by
  apply Datum.Fits.list
  rw [datums_eq_map]
  exact List.forall_mem_map.mpr fit

lemma ValuesFit.value_succ {fuel : Nat} (ih : ValuesFit fuel) {tokens rest : List Token} {v : Value}
    (read : value? (fuel + 1) tokens = some (v, rest)) : v.datum.Fits := by
  unfold value? at read
  split at read
  next =>
    obtain ⟨⟨vs, _⟩, items, made⟩ := Option.map_eq_some_iff.mp read
    cases made
    exact fits_list (ih.items items)
  next =>
    split at read
    next =>
      cases read
      exact Fit.nil.record
    next =>
      obtain ⟨⟨entries, _⟩, pairs, made⟩ := Option.map_eq_some_iff.mp read
      cases made
      exact (ih.pairs .nil pairs).record
  next =>
    obtain ⟨⟨d, _⟩, scalar, made⟩ := Option.map_eq_some_iff.mp read
    cases made
    exact fits_of_scalar? scalar

lemma ValuesFit.items_succ {fuel : Nat} (ih : ValuesFit fuel) {tokens rest : List Token}
    {vs : List Value} (read : items? (fuel + 1) tokens = some (vs, rest)) :
    ∀ v ∈ vs, v.datum.Fits := by
  rw [items?] at read
  split at read
  next =>
    cases read
    exact List.forall_mem_nil _
  next =>
    simp only [Option.bind_eq_bind, Option.bind_eq_some_iff, Prod.exists] at read
    obtain ⟨v, _, first, read⟩ := read
    split at read
    next =>
      obtain ⟨⟨more, _⟩, later, made⟩ := Option.bind_eq_some_iff.mp read
      cases made
      exact List.forall_mem_cons.mpr ⟨ih.value first, ih.items later⟩
    next =>
      cases read
      exact List.forall_mem_singleton.mpr (ih.value first)
    next => cases read

lemma ValuesFit.pairs_succ {fuel : Nat} (ih : ValuesFit fuel) {entries more : List (String × Value)}
    {tokens rest : List Token} (fit : Fit entries)
    (read : pairs? (fuel + 1) entries tokens = some (more, rest)) : Fit more := by
  rw [pairs?] at read
  simp only [Option.bind_eq_bind, Option.bind_eq_some_iff, Prod.exists] at read
  obtain ⟨key, _, -, read⟩ := read
  split at read
  next =>
    simp only [Option.bind_eq_some_iff, Prod.exists] at read
    obtain ⟨v, _, value, entries, inserted, read⟩ := read
    have fit := fit.insert? (ih.value value) inserted
    split at read
    next =>
      cases read
      exact fit
    next => exact ih.pairs fit read
    next => cases read
  next => cases read

lemma valuesFit (fuel : Nat) : ValuesFit fuel := by
  induction fuel with
  | zero =>
    constructor
    · intro tokens rest v read
      cases read
    · intro tokens rest vs read
      cases read
    · intro entries tokens rest more _ read
      cases read
  | succ fuel ih => exact ⟨ih.value_succ, ih.items_succ, ih.pairs_succ⟩

/-! Sections, and the record that they make up. -/

lemma entries_of_header? {tokens rest : List Token} {s : Section}
    (read : header? tokens = some (s, rest)) : s.entries = [] := by
  simp only [header?, Option.bind_eq_bind, Option.bind_eq_some_iff, Prod.exists] at read
  obtain ⟨_, _, -, read⟩ := read
  split at read
  next =>
    obtain ⟨_, -, made⟩ := Option.bind_eq_some_iff.mp read
    cases made
    rfl
  next =>
    obtain ⟨_, -, made⟩ := Option.bind_eq_some_iff.mp read
    cases made
    rfl
  next => cases read

lemma fits_of_keyed {tokens rest : List Token} {key : List String} {v : Value}
    (read : keyValue? tokens = some (key, v, rest)) : v.datum.Fits := by
  simp only [keyValue?, Option.bind_eq_bind, Option.bind_eq_some_iff, Prod.exists] at read
  obtain ⟨_, _, -, read⟩ := read
  split at read
  next =>
    simp only [Option.bind_eq_some_iff, Prod.exists] at read
    obtain ⟨_, _, value, _, -, made⟩ := read
    cases made
    exact (valuesFit _).value value
  next => cases read

lemma sections_fit {fuel : Nat} {current : Section} {tokens : List Token} {sections : List Section}
    (fit : Fit current.entries) (read : sections? fuel current tokens = some sections) :
    ∀ s ∈ sections, Fit s.entries := by
  induction fuel generalizing current tokens sections with
  | zero => cases read
  | succ fuel ih =>
    rw [sections?] at read
    split at read
    next =>
      cases read
      exact List.forall_mem_singleton.mpr fit
    next =>
      simp only [Option.bind_eq_bind, Option.bind_eq_some_iff, Prod.exists] at read
      obtain ⟨next, _, header, more, later, made⟩ := read
      cases made
      have fresh : Fit next.entries := entries_of_header? header ▸ .nil
      exact List.forall_mem_cons.mpr ⟨fit, ih fresh later⟩
    next =>
      simp only [Option.bind_eq_bind, Option.bind_eq_some_iff, Prod.exists] at read
      obtain ⟨key, v, _, entry, entries, inserted, read⟩ := read
      exact ih (fit.insert? (fits_of_keyed entry) inserted) read

lemma document_fits {text : String} {sections : List Section}
    (read : document? text = some sections) : ∀ s ∈ sections, Fit s.entries := by
  simp only [document?, Option.bind_eq_bind, Option.bind_eq_some_iff] at read
  obtain ⟨tokens, -, all, written, read⟩ := read
  have fit := sections_fit .nil written
  split at read
  next first rest =>
    cases read
    split
    · exact (List.forall_mem_cons.mp fit).2
    · exact fit
  next =>
    cases read
    exact List.forall_mem_nil _

namespace Stock

/-- The entries of every section fit, placed or not. -/
def Fit (s : Stock) : Prop := ∀ p ∈ s, Toml.Fit p.1.entries

lemma Fit.entries {s : Stock} (fit : s.Fit) (i : Nat) : ∀ m ∈ s.entries i, m.2.Fits := by
  unfold Stock.entries
  cases found : s[i]? with
  | none => exact List.forall_mem_nil _
  | some p => exact (fit p (List.mem_of_getElem? found)).members

lemma Fit.place {s : Stock} (fit : s.Fit) (i : Nat) : (s.place i).Fit := by
  intro p placed
  obtain ⟨j, found⟩ := List.mem_iff_getElem?.mp placed
  rw [Stock.place, List.getElem?_modify] at found
  obtain ⟨q, old, rfl⟩ := Option.map_eq_some_iff.mp found
  have fits := fit q (List.mem_of_getElem? old)
  split
  · exact fits
  · exact fits

end Stock

/-- Tables and lists that are made from a stock that fits, with so much fuel. -/
structure TablesFit (fuel : Nat) : Prop where
  table : ∀ {parent depth start limit s members rest}, Stock.Fit s →
    table? fuel parent depth start limit s = some (members, rest) →
    (∀ m ∈ members, m.2.Fits) ∧ rest.Fit
  list : ∀ {i depth limit s items rest}, Stock.Fit s →
    list? fuel i depth limit s = some (items, rest) → (∀ d ∈ items, d.Fits) ∧ rest.Fit

lemma TablesFit.table_succ {fuel : Nat} (ih : TablesFit fuel) {parent depth start limit : Nat}
    {s rest : Stock} {members : List (String × Datum)} (fit : s.Fit)
    (read : table? (fuel + 1) parent depth start limit s = some (members, rest)) :
    (∀ m ∈ members, m.2.Fits) ∧ rest.Fit := by
  rw [table?] at read
  split at read
  next =>
    cases read
    exact ⟨List.forall_mem_nil _, fit⟩
  next i next =>
    rw [Option.ite_none_left_eq_some] at read
    obtain ⟨-, read⟩ := read
    extract_lets parent at read
    split at read
    next key _ =>
      extract_lets go at read
      have extend : ∀ d s', d.Fits → s'.Fit → go (d, s') = some (members, rest) →
          (∀ m ∈ members, m.2.Fits) ∧ rest.Fit := by
        intro d s' fits fit went
        simp only [go, Option.bind_eq_bind, Option.bind_eq_some_iff, Prod.exists] at went
        obtain ⟨more, s'', later, made⟩ := went
        cases made
        have later := ih.table fit later
        exact ⟨List.forall_mem_cons.mpr ⟨fits, later.1⟩, later.2⟩
      split at read
      next =>
        simp only [Option.bind_eq_bind, Option.bind_eq_some_iff, Option.map_eq_some_iff,
          Prod.exists] at read
        obtain ⟨d, s', ⟨ds, _, list, made⟩, went⟩ := read
        cases made
        have list := ih.list fit list
        exact extend _ _ (.list list.1) list.2 went
      next =>
        simp only [Option.bind_eq_bind, Option.bind_eq_some_iff, Option.map_eq_some_iff,
          Prod.exists] at read
        obtain ⟨d, s', ⟨ms, _, table, made⟩, went⟩ := read
        cases made
        have table := ih.table fit table
        exact extend _ _ (.record table.1) table.2 went
    next =>
      rw [Option.ite_none_left_eq_some] at read
      simp only [Option.bind_eq_bind, Option.bind_eq_some_iff, Prod.exists] at read
      obtain ⟨-, more, s', later, made⟩ := read
      cases made
      have later := ih.table (fit.place i) later
      exact ⟨List.forall_mem_append.mpr ⟨fit.entries i, later.1⟩, later.2⟩

lemma TablesFit.list_succ {fuel : Nat} (ih : TablesFit fuel) {i depth limit : Nat}
    {s rest : Stock} {items : List Datum} (fit : s.Fit)
    (read : list? (fuel + 1) i depth limit s = some (items, rest)) :
    (∀ d ∈ items, d.Fits) ∧ rest.Fit := by
  rw [list?] at read
  split at read
  next =>
    cases read
    exact ⟨List.forall_mem_nil _, fit⟩
  next =>
    simp only [Option.bind_eq_bind, Option.bind_eq_some_iff, Prod.exists] at read
    obtain ⟨inner, s', table, others, s'', later, made⟩ := read
    cases made
    have table := ih.table (fit.place i) table
    have later := ih.list table.2 later
    have first := Datum.Fits.record (List.forall_mem_append.mpr ⟨fit.entries i, table.1⟩)
    exact ⟨List.forall_mem_cons.mpr ⟨first, later.1⟩, later.2⟩

lemma tablesFit (fuel : Nat) : TablesFit fuel := by
  induction fuel with
  | zero =>
    constructor
    · intro parent depth start limit s members rest _ read
      simp [table?] at read
    · intro i depth limit s items rest _ read
      simp [list?] at read
  | succ fuel ih => exact ⟨ih.table_succ, ih.list_succ⟩

/-- Every whole number in a document has sixty-four bits. -/
theorem fits_of_parse? {text : String} {d : Datum} (parsed : parse? text = some d) : d.Fits := by
  simp only [parse?, Option.bind_eq_bind, Option.bind_eq_some_iff, Prod.exists] at parsed
  obtain ⟨sections, read, members, rest, table, made⟩ := parsed
  cases made
  have fit : (Stock.ofSections sections).Fit := List.forall_mem_map.mpr (document_fits read)
  exact .record ((tablesFit _).table fit table).1

end Toml
end RaceControl
