import RaceControl.Proofs.Json.Tokens

/-!
JSON text and the datum that it writes, as a grammar. The reader finds in each such text the datum
that the grammar gives it, and the compact text that is printed for a datum without floats is one of
the texts that write it.
-/
namespace RaceControl.Json

def Blank (cs : List Char) : Prop := ∀ c ∈ cs, isBlank c = true

/-- The name of a member with the blanks around it. -/
inductive Labels : List Char → Option String → Prop
  | label {before cs after : List Char} {name : Option String} : Blank before → Quotes cs name →
    Blank after → Labels (before ++ cs ++ after) name

/-- A member of a record as it is written, and what its two sides are. -/
structure Member where
  label : List Char
  name : Option String
  text : List Char
  datum : Datum
  labels : Labels label name

def Member.whole (m : Member) : List Char := m.label ++ ':' :: m.text

/-- A text that writes a datum. -/
inductive Writes : List Char → Datum → Prop
  | before {c : Char} {cs : List Char} {d : Datum} : isBlank c = true → Writes cs d →
    Writes (c :: cs) d
  | after {c : Char} {cs : List Char} {d : Datum} : isBlank c = true → Writes cs d →
    Writes (cs ++ [c]) d
  | null : Writes ['n', 'u', 'l', 'l'] .null
  | true : Writes ['t', 'r', 'u', 'e'] (.bool true)
  | false : Writes ['f', 'a', 'l', 's', 'e'] (.bool false)
  | number (n : Numeral) : Writes n.text n.datum
  | text {cs : List Char} {s : String} : Quotes cs (some s) → Writes cs (.text s)
  | unreadable {cs : List Char} : Quotes cs none → Writes cs .unreadable
  | noItems {gap : List Char} : Blank gap → Writes ('[' :: gap ++ [']']) (.list [])
  | list {items : List (List Char × Datum)} : items ≠ [] → (∀ item ∈ items, Writes item.1 item.2) →
    Writes ('[' :: [','].intercalate (items.map Prod.fst) ++ [']']) (.list (items.map Prod.snd))
  | noMembers {gap : List Char} : Blank gap → Writes ('\x7b' :: gap ++ ['\x7d']) (.record [])
  | record {members : List Member} : members ≠ [] → (∀ m ∈ members, Writes m.text m.datum) →
    Writes ('\x7b' :: [','].intercalate (members.map Member.whole) ++ ['\x7d'])
      (record (members.map fun m => (m.name, m.datum)))

variable {cs gap rest : List Char} {d : Datum} {fuel : Nat} {s : Option String}

/-! ## Blanks -/

lemma blank_nil : Blank [] := fun _ member => absurd member List.not_mem_nil

lemma blank_cons_iff {c : Char} : Blank (c :: cs) ↔ isBlank c = true ∧ Blank cs :=
  List.forall_mem_cons

lemma skipBlanks_append (blank : Blank gap) (cs : List Char) :
    skipBlanks (gap ++ cs) = skipBlanks cs := by
  induction gap with
  | nil => rfl
  | cons c gap ih =>
    obtain ⟨first, later⟩ := blank_cons_iff.mp blank
    rw [List.cons_append, skipBlanks, if_pos first]
    exact ih later

lemma skipBlanks_of_blank (blank : Blank gap) : skipBlanks gap = [] := by
  simpa [skipBlanks] using skipBlanks_append blank []

/-- Behind the blanks in front of a text it stands without them. -/
lemma exists_blank_append (cs : List Char) : ∃ gap, Blank gap ∧ cs = gap ++ skipBlanks cs := by
  induction cs with
  | nil => exact ⟨[], blank_nil, rfl⟩
  | cons c cs ih =>
    by_cases blank : isBlank c = true
    · obtain ⟨gap, all, same⟩ := ih
      refine ⟨c :: gap, blank_cons_iff.mpr ⟨blank, all⟩, ?_⟩
      rw [skipBlanks, if_pos blank, List.cons_append, ← same]
    · exact ⟨[], blank_nil, by rw [skipBlanks, if_neg blank, List.nil_append]⟩

lemma skipBlanks_skipBlanks (cs : List Char) : skipBlanks (skipBlanks cs) = skipBlanks cs := by
  obtain ⟨gap, blank, same⟩ := exists_blank_append cs
  conv_rhs => rw [same]
  rw [skipBlanks_append blank]

lemma value_append (blank : Blank gap) (fuel : Nat) (cs : List Char) :
    value fuel (gap ++ cs) = value fuel cs := by
  cases fuel with
  | zero => rfl
  | succ fuel => rw [value, value, skipBlanks_append blank]

lemma items_skipBlanks (fuel : Nat) (cs : List Char) :
    items fuel (skipBlanks cs) = items fuel cs := by
  match fuel with
  | 0 => rfl
  | 1 => rfl
  | fuel + 2 => rw [items, items, value, value, skipBlanks_skipBlanks]

lemma members_skipBlanks (fuel : Nat) (cs : List Char) :
    members fuel (skipBlanks cs) = members fuel cs := by
  cases fuel with
  | zero => rfl
  | succ fuel => rw [members, members, skipBlanks_skipBlanks]

lemma ends_of_blank {c : Char} (blank : isBlank c = true) (rest : List Char) :
    Ends (c :: rest) := by
  intro d first
  cases first
  simp only [isBlank, Bool.or_eq_true, beq_iff_eq] at blank
  rcases blank with ((rfl | rfl) | rfl) | rfl <;> decide

/-! ## Reading -/

/-- The reader finds the datum in a text, whatever stands behind it, and leaves at most blanks of
it. -/
def Reads (cs : List Char) (d : Datum) : Prop :=
  ∀ fuel rest, cs.length ≤ fuel → Ends rest →
    ∃ gap, Blank gap ∧ value fuel (cs ++ rest) = some (d, gap ++ rest)

lemma Reads.of_value {c : Char} (exact : ∀ fuel rest, cs.length ≤ fuel → Ends rest →
    value (fuel + 1) (c :: (cs ++ rest)) = some (d, rest)) : Reads (c :: cs) d := by
  intro fuel rest enough ends
  cases fuel with
  | zero => simp at enough
  | succ fuel => exact ⟨[], blank_nil, exact fuel rest (by simpa using enough) ends⟩

lemma Reads.before {c : Char} (blank : isBlank c = true) (reads : Reads cs d) :
    Reads (c :: cs) d := by
  intro fuel rest enough ends
  have skipped : value fuel (c :: cs ++ rest) = value fuel (cs ++ rest) :=
    value_append (blank_cons_iff.mpr ⟨blank, blank_nil⟩) fuel (cs ++ rest)
  rw [skipped]
  exact reads fuel rest (Nat.le_of_succ_le enough) ends

lemma Reads.after {c : Char} (blank : isBlank c = true) (reads : Reads cs d) :
    Reads (cs ++ [c]) d := by
  intro fuel rest enough ends
  rw [List.length_append] at enough
  obtain ⟨gap, blanks, read⟩ := reads fuel (c :: rest) (by omega) (ends_of_blank blank rest)
  refine ⟨gap ++ [c], ?_, by simpa using read⟩
  simpa [Blank, or_imp, forall_and, blank] using blanks

lemma reads_null : Reads ['n', 'u', 'l', 'l'] .null :=
  Reads.of_value fun fuel rest _ _ => by simp [value, skipBlanks, isBlank, literal, word?]

lemma reads_true : Reads ['t', 'r', 'u', 'e'] (.bool true) :=
  Reads.of_value fun fuel rest _ _ => by simp [value, skipBlanks, isBlank, literal, word?]

lemma reads_false : Reads ['f', 'a', 'l', 's', 'e'] (.bool false) :=
  Reads.of_value fun fuel rest _ _ => by simp [value, skipBlanks, isBlank, literal, word?]

lemma Numeral.exists_cons (n : Numeral) :
    ∃ c cs, n.text = c :: cs ∧ (c = '-' ∨ c.isDigit = true) := by
  unfold text
  cases n.negative with
  | true => exact ⟨'-', _, rfl, .inl rfl⟩
  | false =>
    obtain ⟨ds, some, all⟩ := n.whole
    cases ds with
    | nil => contradiction
    | cons d ds => exact ⟨d, _, rfl, .inr (all d List.mem_cons_self)⟩

lemma reads_number (n : Numeral) : Reads n.text n.datum := by
  obtain ⟨c, cs, text, first⟩ := n.exists_cons
  rw [text]
  refine Reads.of_value fun fuel rest _ ends => ?_
  have read := n.number ends
  rw [text, List.cons_append] at read
  have other : isBlank c = false ∧ c ≠ '"' ∧ c ≠ '[' ∧ c ≠ '\x7b' := by
    rcases first with rfl | digit
    · decide
    · have ne (e : Char) (sign : e.isDigit = false) : c ≠ e := by
        rintro rfl
        exact Bool.false_ne_true (sign.symm.trans digit)
      simp [isBlank, ne]
  simp [value, skipBlanks, other, first, read]

lemma Quotes.value {name : Option String} (quotes : Quotes cs name) :
    Reads cs (name.elim .unreadable .text) := by
  obtain ⟨inner, us, rfl, units, rfl⟩ := quotes.units
  rw [List.cons_append]
  refine Reads.of_value fun fuel rest _ _ => ?_
  cases read : characters? us <;> simp [Json.value, skipBlanks, isBlank, units, read]

lemma reads_noItems (blank : Blank gap) : Reads ('[' :: gap ++ [']']) (.list []) := by
  refine Reads.of_value fun fuel rest _ _ => ?_
  simp [value, skipBlanks, isBlank, skipBlanks_append blank]

lemma reads_noMembers (blank : Blank gap) : Reads ('\x7b' :: gap ++ ['\x7d']) (.record []) := by
  refine Reads.of_value fun fuel rest _ _ => ?_
  simp [value, skipBlanks, isBlank, skipBlanks_append blank]

/-- A closing bracket begins no item. -/
lemma items_closing (fuel : Nat) (rest : List Char) : items fuel (']' :: rest) = none := by
  match fuel with
  | 0 => rfl
  | 1 => simp [items, value]
  | fuel + 2 => simp [items, value, skipBlanks, isBlank, literal, word?]

/-- The items of a list are read one by one. -/
lemma items_intercalate {pieces : List (List Char × Datum)} (some : pieces ≠ [])
    (reads : ∀ piece ∈ pieces, Reads piece.1 piece.2) (fuel : Nat) (rest : List Char)
    (enough : ([','].intercalate (pieces.map Prod.fst)).length < fuel) :
    items fuel ([','].intercalate (pieces.map Prod.fst) ++ ']' :: rest) =
      .some (pieces.map Prod.snd, rest) := by
  induction pieces generalizing fuel with
  | nil => contradiction
  | cons piece pieces ih =>
    obtain ⟨first, later⟩ := List.forall_mem_cons.mp reads
    cases fuel with
    | zero => contradiction
    | succ fuel =>
      cases pieces with
      | nil =>
        simp only [List.map_cons, List.map_nil, List.intercalate_singleton] at enough ⊢
        obtain ⟨gap, blank, read⟩ := first fuel (']' :: rest) (by omega) (by simp [Ends])
        simp [items, read, skipBlanks_append blank, skipBlanks, isBlank]
      | cons next pieces =>
        have others := ih (by simp) later fuel
        simp only [List.map_cons, List.intercalate_cons_cons] at enough others ⊢
        generalize [','].intercalate (next.1 :: pieces.map Prod.fst) = tail at enough others ⊢
        simp only [List.append_assoc, List.cons_append, List.nil_append, List.length_append,
          List.length_cons] at enough ⊢
        obtain ⟨gap, blank, read⟩ :=
          first fuel (',' :: (tail ++ ']' :: rest)) (by omega) (by simp [Ends])
        simp [items, read, skipBlanks_append blank, skipBlanks, isBlank, others (by omega)]

lemma reads_list {pieces : List (List Char × Datum)} (some : pieces ≠ [])
    (reads : ∀ piece ∈ pieces, Reads piece.1 piece.2) :
    Reads ('[' :: [','].intercalate (pieces.map Prod.fst) ++ [']'])
      (.list (pieces.map Prod.snd)) := by
  rw [List.cons_append]
  refine Reads.of_value fun fuel rest enough _ => ?_
  rw [List.length_append, List.length_singleton] at enough
  have read := items_intercalate some reads fuel rest enough
  rw [← items_skipBlanks] at read
  rw [List.append_assoc, List.singleton_append, value, skipBlanks, if_neg (by decide)]
  simp only
  split
  next behind =>
    rw [behind, items_closing] at read
    contradiction
  next => simp [read]

lemma Labels.name {label : List Char} {name : Option String} (labels : Labels label name)
    (rest : List Char) :
    ∃ gap, Blank gap ∧ Json.name (skipBlanks (label ++ rest)) = some (name, gap ++ rest) := by
  cases labels with
  | @label before cs after name blank quotes blank' =>
    refine ⟨after, blank', ?_⟩
    have starts : skipBlanks (cs ++ (after ++ rest)) = cs ++ (after ++ rest) := by
      obtain ⟨inner, us, rfl, -, -⟩ := quotes.units
      rfl
    rw [List.append_assoc, List.append_assoc, skipBlanks_append blank, starts]
    exact quotes.name _

/-- A closing brace begins no member. -/
lemma members_closing (fuel : Nat) (rest : List Char) : members fuel ('\x7d' :: rest) = none := by
  cases fuel with
  | zero => rfl
  | succ fuel => simp [members, Json.name, skipBlanks, isBlank]

/-- The members of a record are read one by one. -/
lemma members_intercalate {ms : List Member} (some : ms ≠ [])
    (reads : ∀ m ∈ ms, Reads m.text m.datum) (fuel : Nat) (rest : List Char)
    (enough : ([','].intercalate (ms.map Member.whole)).length < fuel) :
    members fuel ([','].intercalate (ms.map Member.whole) ++ '\x7d' :: rest) =
      .some (ms.map fun m => (m.name, m.datum), rest) := by
  induction ms generalizing fuel with
  | nil => contradiction
  | cons m ms ih =>
    obtain ⟨first, later⟩ := List.forall_mem_cons.mp reads
    cases fuel with
    | zero => contradiction
    | succ fuel =>
      cases ms with
      | nil =>
        simp only [List.map_cons, List.map_nil, List.intercalate_singleton, Member.whole,
          List.append_assoc, List.cons_append, List.length_append, List.length_cons] at enough ⊢
        obtain ⟨gap, blank, named⟩ := m.labels.name (':' :: (m.text ++ '\x7d' :: rest))
        obtain ⟨gap', blank', read⟩ := first fuel ('\x7d' :: rest) (by omega) (by simp [Ends])
        simp [members, named, read, skipBlanks_append blank, skipBlanks_append blank', skipBlanks,
          isBlank]
      | cons next ms =>
        have others := ih (by simp) later fuel
        simp only [List.map_cons, List.intercalate_cons_cons] at enough others ⊢
        generalize [','].intercalate (next.whole :: ms.map Member.whole) = tail at enough others ⊢
        simp only [Member.whole, List.append_assoc, List.cons_append, List.nil_append,
          List.length_append, List.length_cons] at enough ⊢
        obtain ⟨gap, blank, named⟩ :=
          m.labels.name (':' :: (m.text ++ ',' :: (tail ++ '\x7d' :: rest)))
        obtain ⟨gap', blank', read⟩ :=
          first fuel (',' :: (tail ++ '\x7d' :: rest)) (by omega) (by simp [Ends])
        simp [members, named, read, skipBlanks_append blank, skipBlanks_append blank', skipBlanks,
          isBlank, others (by omega)]

lemma reads_record {ms : List Member} (some : ms ≠ []) (reads : ∀ m ∈ ms, Reads m.text m.datum) :
    Reads ('\x7b' :: [','].intercalate (ms.map Member.whole) ++ ['\x7d'])
      (record (ms.map fun m => (m.name, m.datum))) := by
  rw [List.cons_append]
  refine Reads.of_value fun fuel rest enough _ => ?_
  rw [List.length_append, List.length_singleton] at enough
  have read := members_intercalate some reads fuel rest enough
  rw [← members_skipBlanks] at read
  rw [List.append_assoc, List.singleton_append, value, skipBlanks, if_neg (by decide)]
  simp only
  split
  next behind =>
    rw [behind, members_closing] at read
    contradiction
  next => simp [read]

lemma Writes.reads (writes : Writes cs d) : Reads cs d := by
  induction writes with
  | before blank _ ih => exact ih.before blank
  | after blank _ ih => exact ih.after blank
  | null => exact reads_null
  | true => exact reads_true
  | false => exact reads_false
  | number n => exact reads_number n
  | text quotes | unreadable quotes => exact quotes.value
  | noItems blank => exact reads_noItems blank
  | list some _ ih => exact reads_list some ih
  | noMembers blank => exact reads_noMembers blank
  | record some _ ih => exact reads_record some ih

/-- The datum that a text writes is the one that is read in it. -/
theorem parse?_of_writes {text : String} (writes : Writes text.toList d) :
    parse? text = some d := by
  obtain ⟨gap, blank, read⟩ := writes.reads (2 * text.length + 2) [] (by
    rw [String.length_toList]; omega) (by simp [Ends])
  simp only [List.append_nil] at read
  simp [parse?, read, skipBlanks_of_blank blank]

/-! ## Printing -/

/-- The data that are printed as what they are: all without floats and unreadable texts in them. -/
inductive Exact : Datum → Prop
  | null : Exact .null
  | bool (b : Bool) : Exact (.bool b)
  | int (n : Int) : Exact (.int n)
  | text (s : String) : Exact (.text s)
  | list {ds : List Datum} : (∀ d ∈ ds, Exact d) → Exact (.list ds)
  | record {ms : List (String × Datum)} : (∀ m ∈ ms, Exact m.2) → Exact (.record ms)

lemma print_list (d : Datum) (ds : List Datum) :
    print (.list (d :: ds)) = '[' :: [','].intercalate ((d :: ds).map print) ++ [']'] := by
  have joined : print d ++ printItems ds = [','].intercalate ((d :: ds).map print) ++ [']'] := by
    induction ds generalizing d with
    | nil => simp [printItems]
    | cons next ds ih => simp [printItems, ih next]
  rw [print, List.cons_append, joined, List.cons_append]

/-- A member of a record as it is printed. -/
def Member.printed (m : String × Datum) : Member where
  label := quoted m.1.toList
  name := some m.1
  text := print m.2
  datum := m.2
  labels := by
    have label := Labels.label blank_nil (quotes_quoted m.1.toList) blank_nil
    rwa [String.ofList_toList, List.nil_append, List.append_nil] at label

lemma print_record (m : String × Datum) (ms : List (String × Datum)) :
    print (.record (m :: ms)) =
      '\x7b' :: [','].intercalate (((m :: ms).map Member.printed).map Member.whole) ++
        ['\x7d'] := by
  have joined : (Member.printed m).whole ++ printMembers ms =
      [','].intercalate (((m :: ms).map Member.printed).map Member.whole) ++ ['\x7d'] := by
    induction ms generalizing m with
    | nil => simp [printMembers]
    | cons next ms ih =>
      rw [List.map_cons, List.map_cons, List.map_cons, List.map_cons, List.intercalate_cons_cons,
        List.append_assoc, ← List.map_cons, ← List.map_cons, ← ih next]
      simp [printMembers, Member.printed, Member.whole]
  rw [List.cons_append, ← joined]
  simp [print, Member.printed, Member.whole]

lemma record_printed (ms : List (String × Datum)) :
    record ((ms.map Member.printed).map fun m => (m.name, m.datum)) = .record ms := by
  have names : ((ms.map Member.printed).map fun m => (m.name, m.datum)).mapM
      (fun m => m.1.map (·, m.2)) = some ms := by
    induction ms with
    | nil => rfl
    | cons m ms ih =>
      rw [List.map_cons, List.map_cons, List.mapM_cons, ih]
      rfl
  unfold record
  split
  next members read => rw [Option.some.inj (read.symm.trans names)]
  next read => cases read.symm.trans names

/-- The compact text of a datum writes it. -/
theorem Exact.writes_print (exact : Exact d) : Writes (print d) d := by
  induction exact with
  | null => exact .null
  | bool b =>
    cases b with
    | true => exact .true
    | false => exact .false
  | int n =>
    have writes := Writes.number (.ofInt n)
    rwa [Numeral.text_ofInt, Numeral.datum_ofInt] at writes
  | text s =>
    have quotes := quotes_quoted s.toList
    rw [String.ofList_toList] at quotes
    exact .text quotes
  | @list ds _ ih =>
    cases ds with
    | nil => exact .noItems blank_nil
    | cons d ds =>
      have each : ∀ item ∈ (d :: ds).map (fun d => (print d, d)), Writes item.1 item.2 :=
        List.forall_mem_map.mpr ih
      have writes := Writes.list (by simp) each
      rw [List.map_map, List.map_map] at writes
      rw [print_list]
      simpa [Function.comp_def] using writes
  | @record ms _ ih =>
    cases ms with
    | nil => exact .noMembers blank_nil
    | cons m ms =>
      have each : ∀ member ∈ (m :: ms).map Member.printed, Writes member.text member.datum :=
        List.forall_mem_map.mpr ih
      have writes := Writes.record (by simp) each
      rwa [record_printed, ← print_record] at writes

theorem parse?_text (exact : Exact d) : parse? (text d) = some d :=
  parse?_of_writes (by rw [text, String.toList_ofList]; exact exact.writes_print)

end RaceControl.Json
