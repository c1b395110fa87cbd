import Mathlib.Data.List.Induction
import Mathlib.Data.List.Sort
import Mathlib.Data.String.Basic
import RaceControl.Program.LaunchFile
import RaceControl.Proofs.Data.Record
import RaceControl.Proofs.Toml.Numbers

/-!
The settings that a document gives. A setting is read from the member of its own name and from
nothing else: `decoded_by_field` says which documents have settings, what each setting is, and that
the settings and the tables of a launch, which are read from one text, leave each other alone.
-/
namespace RaceControl
open Datum

namespace Plugin

/-- What a plugin is written as: a record with an executable and perhaps arguments, or the list of
the two. -/
inductive Describes : Datum → Plugin → Prop
  | record {t : List (String × Datum)} {executable : String} {arguments : List String}
      (program : named "executable" t = [("executable", .text executable)])
      (rest : Field t "arguments" [] (fun d texts => d = .list (texts.map .text)) arguments) :
      Describes (.record t) ⟨executable, arguments⟩
  | alone (executable : String) : Describes (.list [.text executable]) ⟨executable, []⟩
  | pair (executable : String) (arguments : List String) :
      Describes (.list [.text executable, .list (arguments.map .text)]) ⟨executable, arguments⟩

/-- The two members of a record, each found and read. -/
theorem ofDatum?_record {t : List (String × Datum)} {p : Plugin} :
    ofDatum? (.record t) = some p ↔
      ∃ executable arguments, written? t "executable" = some (some (.text executable)) ∧
        (written? t "arguments").bind (member? (listOf? text?) []) = some arguments ∧
        p = ⟨executable, arguments⟩ := by
  simp only [ofDatum?, align?_record, memberNames, List.mapM_cons, List.mapM_nil,
    Option.bind_eq_bind, Option.bind_eq_some_iff, Option.pure_def, Option.some.injEq]
  constructor
  · rintro ⟨members, ⟨_, program, _, ⟨_, rest, _, rfl, rfl⟩, rfl⟩, read⟩
    simp only [Option.bind_eq_some_iff, text?_eq_some_iff, Option.some.injEq] at read
    obtain ⟨_, rfl, executable, rfl, arguments, read, rfl⟩ := read
    exact ⟨executable, arguments, program, ⟨_, rest, read⟩, rfl⟩
  · rintro ⟨executable, arguments, program, ⟨_, rest, read⟩, rfl⟩
    exact ⟨_, ⟨_, program, _, ⟨_, rest, _, rfl, rfl⟩, rfl⟩, by simp [text?, read]⟩

/-- A list of one item or two; there is no plugin without an executable. -/
lemma ofDatum?_list {items : List Datum} {p : Plugin} :
    ofDatum? (.list items) = some p ↔ Describes (.list items) p := by
  match items with
  | [] =>
    constructor
    · intro read
      simp [ofDatum?, align?, memberNames] at read
    · intro described
      cases described
  | [program] =>
    have read : ofDatum? (.list [program]) = some p ↔
        ∃ executable, program = .text executable ∧ ⟨executable, []⟩ = p := by
      simp [ofDatum?, align?, memberNames, member?, Option.bind_eq_some_iff, text?_eq_some_iff]
    rw [read]
    constructor
    · rintro ⟨executable, rfl, rfl⟩
      exact .alone executable
    · intro described
      cases described with
      | alone executable => exact ⟨executable, rfl, rfl⟩
  | [program, rest] =>
    have read : ofDatum? (.list [program, rest]) = some p ↔
        ∃ executable, program = .text executable ∧
          ∃ arguments : List String, rest = .list (arguments.map .text) ∧
            ⟨executable, arguments⟩ = p := by
      simp [ofDatum?, align?, memberNames, member?, Option.bind_eq_some_iff, text?_eq_some_iff,
        texts_eq_some_iff]
    rw [read]
    constructor
    · rintro ⟨executable, rfl, arguments, rfl, rfl⟩
      exact .pair executable arguments
    · intro described
      cases described with
      | pair executable arguments => exact ⟨executable, rfl, arguments, rfl, rfl⟩
  | _ :: _ :: _ :: _ =>
    constructor
    · intro read
      simp [ofDatum?, align?, memberNames] at read
    · intro described
      cases described

lemma ofDatum?_eq_some_iff {d : Datum} {p : Plugin} : ofDatum? d = some p ↔ Describes d p := by
  cases d with
  | record t =>
    have texts : ∀ d, ("arguments", d) ∈ t → ∀ texts : List String,
        listOf? text? d = some texts ↔ d = .list (texts.map .text) :=
      fun d _ texts => texts_eq_some_iff
    rw [ofDatum?_record]
    simp only [written?_eq_some_some_iff, bind_member?_eq_some_iff texts]
    constructor
    · rintro ⟨executable, arguments, program, rest, rfl⟩
      exact .record program rest
    · intro described
      cases described with
      | record program rest => exact ⟨_, _, program, rest, rfl⟩
  | list items => exact ofDatum?_list
  | _ =>
    constructor
    · intro read
      simp [ofDatum?, align?] at read
    · intro described
      cases described

end Plugin

namespace Settings

/-! Variables of the environment. -/

/-- The environment that variables make when they are set one after another: ordered by name, and
under each name the value that is set last. -/
structure Sets (vars environment : List (String × String)) : Prop where
  ordered : environment.Pairwise (·.1 < ·.1)
  last : ∀ name value,
    (name, value) ∈ environment ↔ vars.reverse.lookup name = some value

lemma mem_setVariable {name value n v : String} {env : List (String × String)}
    (ordered : env.Pairwise (·.1 < ·.1)) :
    (n, v) ∈ setVariable name value env ↔ (n = name ∧ v = value) ∨ (n ≠ name ∧ (n, v) ∈ env) := by
  induction env with
  | nil => simp [setVariable]
  | cons first env ih =>
    obtain ⟨m, w⟩ := first
    obtain ⟨least, ordered⟩ := List.pairwise_cons.mp ordered
    have later : (n, v) ∈ env → m < n := least (n, v)
    rw [setVariable]
    -- the variable goes in front of the first one, into its place or behind it
    split
    next before =>
      simp only [List.mem_cons, Prod.mk.injEq]
      grind
    next =>
      split
      next same =>
        simp only [List.mem_cons, Prod.mk.injEq]
        grind
      next differs =>
        simp only [List.mem_cons, ih ordered, Prod.mk.injEq]
        grind

lemma setVariable_ordered {name value : String} {env : List (String × String)}
    (ordered : env.Pairwise (·.1 < ·.1)) : (setVariable name value env).Pairwise (·.1 < ·.1) := by
  induction env with
  | nil => simp [setVariable]
  | cons first env ih =>
    obtain ⟨m, w⟩ := first
    obtain ⟨least, tail⟩ := List.pairwise_cons.mp ordered
    rw [setVariable]
    split
    next before =>
      apply List.Pairwise.cons _ ordered
      intro later found
      rcases List.mem_cons.mp found with rfl | found
      · exact before
      · exact before.trans (least later found)
    next notBefore =>
      split
      next same =>
        subst same
        exact List.Pairwise.cons least tail
      next differs =>
        apply List.Pairwise.cons _ (ih tail)
        rintro ⟨n, v⟩ found
        rcases (mem_setVariable tail).mp found with ⟨rfl, -⟩ | ⟨-, found⟩
        · exact lt_of_le_of_ne (not_lt.mp notBefore) (Ne.symm differs)
        · exact least _ found

lemma Sets.of_foldl (vars : List (String × String)) :
    Sets vars (vars.foldl (fun env (name, value) => setVariable name value env) []) := by
  induction vars using List.reverseRecOn with
  | nil => exact ⟨.nil, by simp⟩
  | append_singleton vars last ih =>
    rw [List.foldl_append]
    constructor
    · exact setVariable_ordered ih.ordered
    · intro name value
      simp only [List.foldl_cons, List.foldl_nil, mem_setVariable ih.ordered]
      rw [List.reverse_append, ih.last, List.reverse_singleton, List.singleton_append,
        List.lookup_cons]
      by_cases same : name = last.1
      · simp [same, eq_comm]
      · simp [same, beq_eq_false_iff_ne.mpr same]

lemma Sets.unique {vars env env' : List (String × String)} (sets : Sets vars env)
    (sets' : Sets vars env') : env = env' := by
  have : Std.Antisymm fun a b : String × String => a.1 < b.1 :=
    ⟨fun a b less more => absurd more (lt_asymm less)⟩
  have : Std.Irrefl fun a b : String × String => a.1 < b.1 := ⟨fun a => lt_irrefl a.1⟩
  apply sets.ordered.eq_of_mem_iff sets'.ordered
  rintro ⟨name, value⟩
  rw [sets.last, sets'.last]

lemma mapM_text?_eq_some_iff {members : List (String × Datum)} {vars : List (String × String)} :
    (members.mapM fun (name, d) => d.text?.map (name, ·)) = some vars ↔
      members = vars.map fun v => (v.1, .text v.2) := by
  apply mapM_eq_some_iff_eq_map
  rintro ⟨name, d⟩ ⟨n, text⟩
  simp only [Option.map_eq_some_iff, text?_eq_some_iff, Prod.mk.injEq]
  constructor
  · rintro ⟨_, rfl, rfl, rfl⟩
    exact ⟨rfl, rfl⟩
  · rintro ⟨rfl, rfl⟩
    exact ⟨text, rfl, rfl, rfl⟩

lemma environment?_eq_some_iff {d : Datum} {env : List (String × String)} :
    environment? d = some env ↔
      ∃ vars, d = .record (vars.map fun v => (v.1, .text v.2)) ∧ Sets vars env := by
  cases d with
  | record members =>
    simp only [environment?, Option.bind_eq_bind, Option.bind_eq_some_iff, mapM_text?_eq_some_iff,
      Option.pure_def, Option.some.injEq, Datum.record.injEq]
    constructor
    · rintro ⟨vars, written, rfl⟩
      exact ⟨vars, written, .of_foldl vars⟩
    · rintro ⟨vars, written, sets⟩
      exact ⟨vars, written, (Sets.of_foldl vars).unique sets⟩
  | _ => simp [environment?]

lemma path?_eq_some_iff {d : Datum} {p : Path} :
    path? d = some p ↔ ∃ text, d = .text text ∧ p = Path.ofString text := by
  simp only [path?, Option.map_eq_some_iff, text?_eq_some_iff]
  constructor
  · rintro ⟨text, rfl, rfl⟩
    exact ⟨text, rfl, rfl⟩
  · rintro ⟨text, rfl, rfl⟩
    exact ⟨text, rfl, rfl⟩

/-- In a document no whole number is too large to be read. -/
lemma count?_eq_some_iff {d : Datum} (fits : d.Fits) {n : Nat} :
    count? d = some n ↔ d = .int n := by
  unfold count?
  rw [below?_eq_some_iff]
  constructor
  · exact And.left
  · rintro rfl
    cases fits with
    | int low high =>
      have large : Nat.pow 2 63 = 0x8000000000000000 := rfl
      exact ⟨rfl, by omega⟩

end Settings

/-! The settings by name. -/

inductive Setting
  | installDir
  | executable
  | arguments
  | environment
  | plugins
  | commands
  | stopGrace
  | stopTimeout
  | logSize
  deriving DecidableEq

namespace Setting

def name : Setting → String
  | installDir => "server_install_path"
  | executable => "executable_path"
  | arguments => "executable_args"
  | environment => "environment"
  | plugins => "plugins"
  | commands => "run_on_start"
  | stopGrace => "stop_grace_ms"
  | stopTimeout => "stop_timeout_ms"
  | logSize => "log_buffer_size"

def all : List Setting :=
  [installDir, executable, arguments, environment, plugins, commands, stopGrace, stopTimeout,
    logSize]

lemma mem_all (k : Setting) : k ∈ all := by
  cases k
  all_goals decide

/-- What a setting ranges over. -/
abbrev Value : Setting → Type
  | installDir | executable => Path
  | arguments | commands => List String
  | environment => List (String × String)
  | plugins => List Plugin
  | stopGrace | stopTimeout | logSize => Nat

/-- Which data are accepted for a setting. -/
def Shape : Setting → Datum → Prop
  | installDir, d | executable, d => ∃ text, d = .text text
  | arguments, d | commands, d => ∃ texts : List String, d = .list (texts.map .text)
  | environment, d =>
    ∃ vars : List (String × String), d = .record (vars.map fun v => (v.1, .text v.2))
  | plugins, d => ∃ items, d = .list items ∧ ∀ item ∈ items, ∃ p, Plugin.Describes item p
  | stopGrace, d | stopTimeout, d | logSize, d => ∃ n : Nat, d = .int n

/-- The value that a datum gives to a setting. -/
def Means : (k : Setting) → Datum → k.Value → Prop
  | installDir, d, p | executable, d, p => ∃ text, d = .text text ∧ p = Path.ofString text
  | arguments, d, texts | commands, d, texts => d = .list (texts.map .text)
  | environment, d, env =>
    ∃ vars, d = .record (vars.map fun v => (v.1, .text v.2)) ∧ Settings.Sets vars env
  | plugins, d, ps => ∃ items, d = .list items ∧ List.Forall₂ Plugin.Describes items ps
  | stopGrace, d, n | stopTimeout, d, n | logSize, d, n => d = .int (n : Nat)

/-- How a setting is read. -/
def read? : (k : Setting) → Datum → Option k.Value
  | installDir | executable => Settings.path?
  | arguments | commands => listOf? text?
  | environment => Settings.environment?
  | plugins => listOf? Plugin.ofDatum?
  | stopGrace | stopTimeout | logSize => Settings.count?

lemma shape_iff {k : Setting} {d : Datum} : k.Shape d ↔ ∃ v, k.Means d v := by
  cases k with
  | installDir | executable =>
    simp [Shape, Means]
  | arguments | commands | stopGrace | stopTimeout | logSize => exact Iff.rfl
  | environment =>
    constructor
    · rintro ⟨vars, written⟩
      exact ⟨_, vars, written, .of_foldl vars⟩
    · rintro ⟨_, vars, written, -⟩
      exact ⟨vars, written⟩
  | plugins =>
    constructor
    · rintro ⟨items, rfl, described⟩
      obtain ⟨ps, described⟩ := exists_forall₂_iff.mpr described
      exact ⟨ps, items, rfl, described⟩
    · rintro ⟨ps, items, rfl, described⟩
      exact ⟨items, rfl, exists_forall₂_iff.mp ⟨ps, described⟩⟩

lemma read?_eq_some_iff {k : Setting} {d : Datum} (fits : d.Fits) {v : k.Value} :
    k.read? d = some v ↔ k.Means d v := by
  cases k with
  | installDir | executable => exact Settings.path?_eq_some_iff
  | arguments | commands => exact texts_eq_some_iff
  | environment => exact Settings.environment?_eq_some_iff
  | plugins =>
    simp [read?, Means, listOf?_eq_some_iff, Plugin.ofDatum?_eq_some_iff]
  | stopGrace | stopTimeout | logSize => exact Settings.count?_eq_some_iff fits

end Setting

namespace Settings

def value (s : Settings) : (k : Setting) → k.Value
  | .installDir => s.installDir
  | .executable => s.executable
  | .arguments => s.arguments
  | .environment => s.environment
  | .plugins => s.plugins
  | .commands => s.commands
  | .stopGrace => s.stopGrace
  | .stopTimeout => s.stopTimeout
  | .logSize => s.logSize

/-- The settings of given values. -/
def ofValues (v : (k : Setting) → k.Value) : Settings where
  installDir := v .installDir
  executable := v .executable
  arguments := v .arguments
  environment := v .environment
  plugins := v .plugins
  commands := v .commands
  stopGrace := v .stopGrace
  stopTimeout := v .stopTimeout
  logSize := v .logSize

@[simp] lemma value_ofValues (v : (k : Setting) → k.Value) (k : Setting) :
    (ofValues v).value k = v k := by
  cases k
  all_goals rfl

lemma memberNames_eq_map : memberNames = Setting.all.map Setting.name := rfl

/-- Settings are aligned if each of them is written once at most. -/
lemma align?_memberNames {t : List (String × Datum)} {members : List (Option Datum)} :
    align? memberNames (.record t) = some members ↔
      ∃ e : Setting → Option Datum, (∀ k, written? t k.name = some (e k)) ∧
        members = Setting.all.map e := by
  rw [align?_record, memberNames_eq_map, List.mapM_map]
  constructor
  · intro aligned
    have each : ∀ k : Setting, ∃ e, written? t k.name = some e := by
      intro k
      have each := exists_forall₂_iff.mp ⟨members, mapM_eq_some_iff.mp aligned⟩
      exact each k k.mem_all
    choose e found using each
    have same := aligned.symm.trans (mapM_eq_some_map fun k _ => found k)
    exact ⟨e, found, Option.some.inj same⟩
  · rintro ⟨e, found, rfl⟩
    exact mapM_eq_some_map fun k _ => found k

/-- A record has the settings whose values are read one by one, each from what is written under its
name. -/
theorem ofDatum?_record {t : List (String × Datum)} {s : Settings} :
    ofDatum? (.record t) = some s ↔
      ∀ k : Setting,
        (written? t k.name).bind (member? k.read? (standard.value k)) = some (s.value k) := by
  unfold ofDatum?
  rw [Option.bind_eq_bind, Option.bind_eq_some_iff]
  simp only [align?_memberNames]
  constructor
  · rintro ⟨_, ⟨e, found, rfl⟩, read⟩ k
    rw [found k]
    simp only [Setting.all, List.map_cons, List.map_nil, Option.bind_eq_bind,
      Option.bind_eq_some_iff, Option.pure_def, Option.some.injEq] at read
    obtain ⟨_, r1, _, r2, _, r3, _, r4, _, r5, _, r6, _, r7, _, r8, _, r9, rfl⟩ := read
    cases k
    all_goals assumption
  · intro all
    have all : ∀ k : Setting, ∃ e, written? t k.name = some e ∧
        member? k.read? (standard.value k) e = some (s.value k) :=
      fun k => Option.bind_eq_some_iff.mp (all k)
    choose e found read using all
    refine ⟨_, ⟨e, found, rfl⟩, ?_⟩
    simp only [Setting.all, List.map_cons, List.map_nil, Option.bind_eq_bind,
      Option.bind_eq_some_iff, Option.pure_def, Option.some.injEq]
    exact ⟨_, read .installDir, _, read .executable, _, read .arguments, _, read .environment,
      _, read .plugins, _, read .commands, _, read .stopGrace, _, read .stopTimeout,
      _, read .logSize, rfl⟩

/-- In a document each setting is the field of its name. -/
theorem ofToml?_eq_some_iff {text : String} {t : List (String × Datum)}
    (parsed : Toml.parse? text = some (.record t)) {s : Settings} :
    ofToml? text = some s ↔
      ∀ k : Setting, Field t k.name (standard.value k) k.Means (s.value k) := by
  cases Toml.fits_of_parse? parsed with
  | record fit =>
    have reads : ∀ k : Setting, ∀ d, (k.name, d) ∈ t → ∀ v, k.read? d = some v ↔ k.Means d v :=
      fun k d written v => Setting.read?_eq_some_iff (fit (k.name, d) written)
    rw [ofToml?, parsed, Option.bind_some, ofDatum?_record]
    exact forall_congr' fun k => bind_member?_eq_some_iff (reads k)

/-- A document has settings if each of them has a value in it. -/
theorem isSome_ofToml?_iff {text : String} {t : List (String × Datum)}
    (parsed : Toml.parse? text = some (.record t)) :
    (ofToml? text).isSome ↔
      ∀ k : Setting, (named k.name t).length ≤ 1 ∧ ∀ d, (k.name, d) ∈ t → k.Shape d := by
  have valued : (ofToml? text).isSome ↔
      ∀ k : Setting, ∃ v, Field t k.name (standard.value k) k.Means v := by
    simp only [Option.isSome_iff_exists, ofToml?_eq_some_iff parsed]
    constructor
    · rintro ⟨s, fields⟩ k
      exact ⟨s.value k, fields k⟩
    · intro fields
      choose v fields using fields
      refine ⟨ofValues v, fun k => ?_⟩
      rw [value_ofValues]
      exact fields k
  rw [valued]
  apply forall_congr'
  intro k
  rw [exists_field_iff, ← named_alone_iff]
  simp only [Setting.shape_iff]

lemma ofDatum?_eq_of_perm {t u : List (String × Datum)}
    (same : ∀ k : Setting, (named k.name t).Perm (named k.name u)) :
    ofDatum? (.record t) = ofDatum? (.record u) := by
  have same : ∀ name ∈ memberNames, (named name t).Perm (named name u) := by
    rw [memberNames_eq_map]
    exact List.forall_mem_map.mpr fun k _ => same k
  unfold ofDatum?
  rw [align?_eq_of_perm same]

end Settings

namespace LaunchTables

lemma ofDatum?_eq_of_perm {t u : List (String × Datum)}
    (same : ∀ name ∈ memberNames, (named name t).Perm (named name u)) :
    ofDatum? (.record t) = ofDatum? (.record u) := by
  unfold ofDatum?
  rw [align?_eq_of_perm same]

lemma name_not_mem_memberNames (k : Setting) : k.name ∉ memberNames := by
  cases k
  all_goals decide

end LaunchTables

namespace Settings

/-- A document has settings exactly if none of them is repeated and those that are written have
their shape; each of them is what is written under its name, or the standard one. Neither the order
of the members nor any other member matters, nor do the settings matter to the tables of a
launch. -/
theorem decoded_by_field {text : String} {t : List (String × Datum)}
    (parsed : Toml.parse? text = some (.record t)) :
    ((ofToml? text).isSome ↔
      ∀ k : Setting, (named k.name t).length ≤ 1 ∧ ∀ d, (k.name, d) ∈ t → k.Shape d) ∧
    ((t.map Prod.fst).Nodup →
      ((ofToml? text).isSome ↔ ∀ (k : Setting) d, (k.name, d) ∈ t → k.Shape d)) ∧
    (∀ s, ofToml? text = some s ↔
      ∀ k : Setting, Field t k.name (standard.value k) k.Means (s.value k)) ∧
    ∀ other u, Toml.parse? other = some (.record u) →
      (t.Perm u ∨ (∀ k : Setting, named k.name t = named k.name u) →
        ofToml? text = ofToml? other) ∧
      ((∀ name, (∀ k : Setting, name ≠ k.name) → named name t = named name u) →
        LaunchTables.ofToml? text = LaunchTables.ofToml? other) := by
  refine ⟨isSome_ofToml?_iff parsed, ?_, fun s => ofToml?_eq_some_iff parsed, ?_⟩
  · intro distinct
    rw [isSome_ofToml?_iff parsed]
    exact forall_congr' fun k => and_iff_right (length_named_le_one distinct k.name)
  · intro other u parsed'
    constructor
    · intro same
      rw [ofToml?, ofToml?, parsed, parsed']
      apply ofDatum?_eq_of_perm
      intro k
      rcases same with reordered | same
      · exact reordered.filter _
      · rw [same k]
    · intro same
      rw [LaunchTables.ofToml?, LaunchTables.ofToml?, parsed, parsed']
      apply LaunchTables.ofDatum?_eq_of_perm
      intro name launch
      rw [same name]
      rintro k rfl
      exact LaunchTables.name_not_mem_memberNames k launch

/-- Two settings, and the table of a launch behind them. -/
def sample : String := "log_buffer_size = 5\nenvironment.A = 'b'\n[session]\nlaps = 3\n"

def sampled : List (String × Datum) :=
  [("log_buffer_size", .int 5), ("environment", .record [("A", .text "b")]),
   ("session", .record [("laps", .int 3)])]

lemma scan_sample : Toml.Token.scan sample =
    some [.word "log_buffer_size".toList, .blanks [' '], .equals, .blanks [' '], .word ['5'],
      .newline,
      .word "environment".toList, .period, .word ['A'], .blanks [' '], .equals, .blanks [' '],
      .quoted ['b'] false, .newline,
      .openBracket, .word "session".toList, .closeBracket, .newline,
      .word "laps".toList, .blanks [' '], .equals, .blanks [' '], .word ['3'], .newline] := by rfl

lemma sections_sample : Toml.document? sample =
    some [⟨[], false, [("log_buffer_size", .plain (.int 5)),
        ("environment", .dotted [("A", .plain (.text "b"))])]⟩,
      ⟨["session"], false, [("laps", .plain (.int 3))]⟩] := by
  rw [Toml.document?, scan_sample]
  rfl

lemma parse?_sample : Toml.parse? sample = some (.record sampled) := by
  rw [Toml.parse?, sections_sample]
  simp [Toml.table?, Toml.Stock.ofSections, Toml.Stock.measure, Toml.Stock.next?, Toml.Stock.path,
    Toml.Stock.first?, Toml.Stock.isItem, Toml.Stock.entries, Toml.Stock.place, List.findIdx?_cons,
    Toml.members, Toml.Value.datum, sampled]

theorem decoded_sample :
    Toml.parse? sample = some (.record sampled) ∧
      ofToml? sample = some { standard with logSize := 5, environment := [("A", "b")] } := by
  refine ⟨parse?_sample, ((decoded_by_field parse?_sample).2.2.1 _).mpr ?_⟩
  intro k
  cases k with
  | logSize => exact .inr ⟨.int 5, rfl, rfl⟩
  | environment => exact .inr ⟨_, rfl, [("A", "b")], rfl, .of_foldl [("A", "b")]⟩
  | _ => exact .inl ⟨rfl, rfl⟩

end Settings
end RaceControl
