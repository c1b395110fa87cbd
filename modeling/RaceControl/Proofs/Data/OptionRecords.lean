import Mathlib.Data.List.Nodup
import RaceControl.Data.OptionRecords
import RaceControl.Proofs.Data.Record
import RaceControl.Proofs.Json.Grammar

/-!
Plugins and options as JSON. What is printed for a value is read back as that value, and so is every
text of a record that differs from it in the order of the members, in members of other names, or in
leaving out what has its default. A member that is repeated, null or out of its range is refused.
-/
namespace RaceControl

/-- The kinds of records. -/
inductive OptionRecord
  | plugin
  | server
  | tracker

/-- A member of such a record: its name, what it is where it is not written (nothing if it has to
be written), and whether it is a port. -/
structure Slot where
  name : String
  default : Option Datum
  isPort : Bool

/-- A number that is no port: it is out of range, or is not written as a whole number. -/
def Datum.IsNoPort : Datum → Prop
  | .int n => n < 0 ∨ 65535 < n
  | .float _ => True
  | _ => False

namespace OptionRecord
open Datum

def Value : OptionRecord → Type
  | .plugin => Plugin
  | .server => ServerOptions
  | .tracker => TrackerOptions

/-- The members of a record in the order of their declaration. -/
def slots : OptionRecord → List Slot
  | .plugin => [⟨"executable", none, false⟩, ⟨"arguments", some (.list []), false⟩]
  | .server =>
    [⟨"udp_plugin_address", some (.text ""), false⟩,
     ⟨"udp_plugin_local_port", some (.int 0), true⟩,
     ⟨"enable_content_manager_wrapper", some (.bool false), false⟩,
     ⟨"content_manager_wrapper_port", some (.int 0), true⟩]
  | .tracker =>
    [⟨"enable_stracker", some (.bool false), false⟩, ⟨"send_port", some (.int 0), true⟩,
     ⟨"receive_port", some (.int 0), true⟩, ⟨"listening_port", some (.int 0), true⟩]

/-- The data of a value, in the same order. -/
def fields : (r : OptionRecord) → r.Value → List Datum
  | .plugin, p => [.text p.executable.text, .list (p.arguments.map .text)]
  | .server, o => [.text o.udpPluginAddress, o.udpPluginLocalPort.toDatum,
      .bool o.enableContentManagerWrapper, o.contentManagerWrapperPort.toDatum]
  | .tracker, o => [.bool o.enabled, o.sendPort.toDatum, o.receivePort.toDatum,
      o.listeningPort.toDatum]

def toDatum : (r : OptionRecord) → r.Value → Datum
  | .plugin => Plugin.toDatum
  | .server => ServerOptions.toDatum
  | .tracker => TrackerOptions.toDatum

def ofDatum? : (r : OptionRecord) → Datum → Option r.Value
  | .plugin => Plugin.ofDatum?
  | .server => ServerOptions.ofDatum?
  | .tracker => TrackerOptions.ofDatum?

/-- The compact JSON text of a value. -/
def encode (r : OptionRecord) (v : r.Value) : String := Json.text (r.toDatum v)

/-- The value that a JSON text writes. -/
def decode? (r : OptionRecord) (text : String) : Option r.Value :=
  (Json.parse? text).bind r.ofDatum?

variable {r : OptionRecord} {v : r.Value} {ms : List (String × Datum)} {d : Datum} {slot : Slot}

/-- Each slot with what a value has there. -/
def filled (r : OptionRecord) (v : r.Value) : List (Slot × Datum) := r.slots.zip (r.fields v)

/-- The members of a value in the order of their declaration. -/
def members (r : OptionRecord) (v : r.Value) : List (String × Datum) :=
  (r.filled v).map fun (slot, d) => (slot.name, d)

lemma toDatum_eq (r : OptionRecord) (v : r.Value) : r.toDatum v = .record (r.members v) := by
  cases r <;> rfl

/-- The ways to write a value as a record: the members in any order, with members of unknown names
anywhere between them, and without some of those that have their default. -/
inductive Variant (r : OptionRecord) (v : r.Value) : List (String × Datum) → Prop
  | whole : Variant r v (r.members v)
  | permuted {ms ms' : List (String × Datum)} : Variant r v ms → ms.Perm ms' → Variant r v ms'
  | inserted {before after : List (String × Datum)} {name : String} (d : Datum) :
    Variant r v (before ++ after) → (∀ slot ∈ r.slots, slot.name ≠ name) →
    Variant r v (before ++ (name, d) :: after)
  | omitted {before after : List (String × Datum)} {slot : Slot} {d : Datum} :
    Variant r v (before ++ (slot.name, d) :: after) → slot ∈ r.slots → slot.default = some d →
    Variant r v (before ++ after)

/-- A datum that a slot refuses whatever stands beside it. -/
def Refuses (slot : Slot) (d : Datum) : Prop := d = .null ∨ slot.isPort = true ∧ d.IsNoPort

/-- Data with a fault in them: a known member is repeated, or is null, or is a port and has a number
that is none. -/
inductive Faulty (r : OptionRecord) : Datum → Prop
  | repeated {ms : List (String × Datum)} {slot : Slot} : slot ∈ r.slots →
    2 ≤ (named slot.name ms).length → Faulty r (.record ms)
  | member {ms : List (String × Datum)} {slot : Slot} {d : Datum} : slot ∈ r.slots →
    (slot.name, d) ∈ ms → Refuses slot d → Faulty r (.record ms)
  | item {items : List Datum} {i : Nat} {slot : Slot} {d : Datum} : r.slots[i]? = some slot →
    items[i]? = some d → Refuses slot d → Faulty r (.list items)

/-- What is written for a slot gives it a datum: it is the datum, or it is left to the default. -/
def Gives (slot : Slot) (d : Datum) (e : Option Datum) : Prop :=
  e = some d ∨ (e = none ∧ slot.default = some d)

/-! ## Reading a value -/

lemma ofDatum?_port_eq_some_iff {p : Port} : Port.ofDatum? d = some p ↔ d = p.toDatum := by
  simp only [Port.ofDatum?, Port.toDatum, Option.map_eq_some_iff, below?_eq_some_iff]
  constructor
  · rintro ⟨n, ⟨rfl, bound⟩, rfl⟩
    rw [UInt16.toNat_ofNat_of_lt' bound]
  · rintro rfl
    exact ⟨p.toNat, ⟨rfl, p.toNat_lt⟩, UInt16.ofNat_toNat⟩

/-- A member is read as a value if what is written for it gives the datum of the value. -/
lemma member?_eq_some_iff {α : Type} {read? : Datum → Option α} {datum : α → Datum} {a : α}
    {name : String} {isPort : Bool} {e : Option Datum}
    (reads : ∀ d a, read? d = some a ↔ d = datum a) (default : α) :
    member? read? default e = some a ↔ Gives ⟨name, some (datum default), isPort⟩ (datum a) e := by
  cases e with
  | none =>
    have same : datum default = datum a ↔ default = a := by
      rw [← reads, (reads (datum default) default).mpr rfl, Option.some.injEq]
    simp [member?, Gives, same]
  | some d => simp [member?, Gives, reads]

lemma gives_program_iff {name s : String} {isPort : Bool} {e : Option Datum} :
    Gives ⟨name, none, isPort⟩ (.text s) e ↔ e.bind text? = some s := by
  cases e <;> simp [Gives, text?_eq_some_iff]

lemma gives_texts_iff {name : String} {isPort : Bool} {e : Option Datum} {texts : List String} :
    Gives ⟨name, some (.list []), isPort⟩ (.list (texts.map .text)) e ↔
      member? (listOf? text?) [] e = some texts :=
  (member?_eq_some_iff (fun _ _ => texts_eq_some_iff) []).symm

lemma gives_text_iff {name s : String} {isPort : Bool} {e : Option Datum} :
    Gives ⟨name, some (.text ""), isPort⟩ (.text s) e ↔ member? text? "" e = some s :=
  (member?_eq_some_iff (fun _ _ => text?_eq_some_iff) "").symm

lemma gives_bool_iff {name : String} {isPort b : Bool} {e : Option Datum} :
    Gives ⟨name, some (.bool false), isPort⟩ (.bool b) e ↔ member? bool? false e = some b :=
  (member?_eq_some_iff (fun _ _ => bool?_eq_some_iff) false).symm

lemma gives_port_iff {name : String} {isPort : Bool} {e : Option Datum} {p : Port} :
    Gives ⟨name, some (.int 0), isPort⟩ p.toDatum e ↔ member? Port.ofDatum? 0 e = some p :=
  (member?_eq_some_iff (fun _ _ => ofDatum?_port_eq_some_iff) 0).symm

lemma plugin_eq_some_iff {p : Plugin} :
    Plugin.ofDatum? d = some p ↔ ∃ entries, align? Plugin.memberNames d = some entries ∧
      List.Forall₂ (fun p e => Gives p.1 p.2 e) (filled .plugin p) entries := by
  rw [Plugin.ofDatum?, Option.bind_eq_bind, Option.bind_eq_some_iff]
  refine exists_congr fun entries => and_congr_right fun _ => ?_
  match entries with
  | [executable, arguments] =>
    simp only [filled, slots, fields, List.zip_cons_cons, List.zip_nil_right, List.forall₂_cons,
      List.forall₂_nil_right_iff, and_true, gives_program_iff, gives_texts_iff, Option.bind_eq_bind,
      Option.bind_eq_some_iff, Option.pure_def, Option.some.injEq]
    constructor
    · rintro ⟨_, program, _, read, _, texts, rfl⟩
      exact ⟨⟨_, program, by rw [read, Path.ofString, Path.text, String.ofList_toList]⟩, texts⟩
    · rintro ⟨⟨_, program, read⟩, texts⟩
      refine ⟨_, program, _, read, _, texts, ?_⟩
      rw [Path.ofString, Path.text, String.toList_ofList]
  | [] | [_] | _ :: _ :: _ :: _ => simp [filled, slots, fields]

lemma server_eq_some_iff {o : ServerOptions} :
    ServerOptions.ofDatum? d = some o ↔
      ∃ entries, align? ServerOptions.memberNames d = some entries ∧
        List.Forall₂ (fun p e => Gives p.1 p.2 e) (filled .server o) entries := by
  rw [ServerOptions.ofDatum?, Option.bind_eq_bind, Option.bind_eq_some_iff]
  refine exists_congr fun entries => and_congr_right fun _ => ?_
  match entries with
  | [address, localPort, wrapper, wrapperPort] =>
    simp only [filled, slots, fields, List.zip_cons_cons, List.zip_nil_right, List.forall₂_cons,
      List.forall₂_nil_right_iff, and_true, gives_text_iff, gives_bool_iff, gives_port_iff,
      Option.bind_eq_bind, Option.bind_eq_some_iff, Option.pure_def, Option.some.injEq]
    constructor
    · rintro ⟨_, first, _, second, _, third, _, fourth, rfl⟩
      exact ⟨first, second, third, fourth⟩
    · rintro ⟨first, second, third, fourth⟩
      exact ⟨_, first, _, second, _, third, _, fourth, rfl⟩
  | [] | [_] | [_, _] | [_, _, _] | _ :: _ :: _ :: _ :: _ :: _ => simp [filled, slots, fields]

lemma tracker_eq_some_iff {o : TrackerOptions} :
    TrackerOptions.ofDatum? d = some o ↔
      ∃ entries, align? TrackerOptions.memberNames d = some entries ∧
        List.Forall₂ (fun p e => Gives p.1 p.2 e) (filled .tracker o) entries := by
  rw [TrackerOptions.ofDatum?, Option.bind_eq_bind, Option.bind_eq_some_iff]
  refine exists_congr fun entries => and_congr_right fun _ => ?_
  match entries with
  | [enabled, send, receive, listening] =>
    simp only [filled, slots, fields, List.zip_cons_cons, List.zip_nil_right, List.forall₂_cons,
      List.forall₂_nil_right_iff, and_true, gives_bool_iff, gives_port_iff,
      Option.bind_eq_bind, Option.bind_eq_some_iff, Option.pure_def, Option.some.injEq]
    constructor
    · rintro ⟨_, first, _, second, _, third, _, fourth, rfl⟩
      exact ⟨first, second, third, fourth⟩
    · rintro ⟨first, second, third, fourth⟩
      exact ⟨_, first, _, second, _, third, _, fourth, rfl⟩
  | [] | [_] | [_, _] | [_, _, _] | _ :: _ :: _ :: _ :: _ :: _ => simp [filled, slots, fields]

/-- A value is read if what is written for each slot gives what the value has there. -/
lemma ofDatum?_eq_some_iff :
    r.ofDatum? d = some v ↔ ∃ entries, d.align? (r.slots.map Slot.name) = some entries ∧
      List.Forall₂ (fun p e => Gives p.1 p.2 e) (r.filled v) entries := by
  cases r with
  | plugin => exact plugin_eq_some_iff
  | server => exact server_eq_some_iff
  | tracker => exact tracker_eq_some_iff

lemma names_eq (r : OptionRecord) (v : r.Value) :
    r.slots.map Slot.name = (r.filled v).map (·.1.name) := by
  cases r <;> rfl

/-- What a record has for a slot: the one member of its name, or none where the default is given. -/
def Holds (ms : List (String × Datum)) (slot : Slot) (d : Datum) : Prop :=
  named slot.name ms = [(slot.name, d)] ∨ (named slot.name ms = [] ∧ slot.default = some d)

lemma holds_iff : Holds ms slot d ↔ ∃ e, written? ms slot.name = some e ∧ Gives slot d e := by
  constructor
  · rintro (alone | ⟨absent, default⟩)
    · exact ⟨some d, written?_eq_some_some_iff.mpr alone, .inl rfl⟩
    · exact ⟨none, written?_eq_some_none_iff.mpr absent, .inr ⟨rfl, default⟩⟩
  · rintro ⟨_, written, rfl | ⟨rfl, default⟩⟩
    · exact .inl (written?_eq_some_some_iff.mp written)
    · exact .inr ⟨written?_eq_some_none_iff.mp written, default⟩

/-- A record is read slot by slot, each by the members of its name. -/
lemma ofDatum?_record :
    r.ofDatum? (.record ms) = some v ↔ ∀ p ∈ r.filled v, Holds ms p.1 p.2 := by
  rw [ofDatum?_eq_some_iff, align?_record, names_eq r v]
  simp only [mapM_eq_some_iff, List.forall₂_map_left_iff, holds_iff, forall₂_and_iff,
    exists_forall₂_iff]

/-! ## The ways to write a value -/

lemma Holds.permuted {ms' : List (String × Datum)} (holds : Holds ms slot d) (perm : ms.Perm ms') :
    Holds ms' slot d := by
  have same : (named slot.name ms).Perm (named slot.name ms') := perm.filter _
  rcases holds with alone | ⟨absent, default⟩
  · rw [alone] at same
    exact .inl (List.perm_singleton.mp same.symm)
  · rw [absent] at same
    exact .inr ⟨same.symm.eq_nil, default⟩

lemma Holds.inserted {before after : List (String × Datum)} {name : String} {other : Datum}
    (holds : Holds (before ++ after) slot d) (unknown : name ≠ slot.name) :
    Holds (before ++ (name, other) :: after) slot d := by
  have same : named slot.name (before ++ (name, other) :: after) =
      named slot.name (before ++ after) := by
    rw [named_append, named_append, named_cons_of_ne unknown]
  rwa [Holds, same]

lemma Holds.omitted {before after : List (String × Datum)} {gone : Slot} {other : Datum}
    (holds : Holds (before ++ (gone.name, other) :: after) slot d)
    (same : gone.name = slot.name → gone = slot) (default : gone.default = some other) :
    Holds (before ++ after) slot d := by
  by_cases named : gone.name = slot.name
  · -- there was no other member of this name
    obtain rfl := same named
    rw [Holds, named_append, named_cons_self] at holds
    rw [Holds, named_append]
    rcases holds with alone | ⟨absent, -⟩
    · obtain ⟨before, alone⟩ | ⟨-, nobody⟩ := List.append_eq_singleton_iff.mp alone
      · obtain ⟨known, after⟩ := List.cons.inj alone
        cases known
        exact .inr ⟨by rw [before, after, List.nil_append], default⟩
      · contradiction
    · exact absurd (List.append_eq_nil_iff.mp absent).2 (List.cons_ne_nil _ _)
  · rwa [Holds, named_append, named_cons_of_ne named, ← named_append] at holds

lemma distinct_names (r : OptionRecord) : (r.slots.map Slot.name).Nodup := by
  cases r <;> decide

lemma mem_slots {p : Slot × Datum} (member : p ∈ r.filled v) : p.1 ∈ r.slots :=
  (List.of_mem_zip member).1

/-- Every variant has for each slot what the value has there. -/
lemma Variant.holds (variant : r.Variant v ms) : ∀ p ∈ r.filled v, Holds ms p.1 p.2 := by
  induction variant with
  | whole =>
    intro p member
    have distinct : ((r.members v).map Prod.fst).Nodup := by
      have names := distinct_names r
      rw [names_eq r v] at names
      simpa [members, Function.comp_def] using names
    exact .inl (named_of_mem distinct (List.mem_map.mpr ⟨p, member, rfl⟩))
  | permuted _ perm ih => exact fun p member => (ih p member).permuted perm
  | inserted d _ unknown ih =>
    exact fun p member => (ih p member).inserted (unknown p.1 (mem_slots member)).symm
  | omitted _ listed default ih =>
    refine fun p member => (ih p member).omitted ?_ default
    exact List.inj_on_of_nodup_map (distinct_names r) listed (mem_slots member)

/-- The list of the data in order is read as well. -/
lemma ofDatum?_fields (r : OptionRecord) (v : r.Value) :
    r.ofDatum? (.list (r.fields v)) = some v := by
  refine ofDatum?_eq_some_iff.mpr ⟨(r.fields v).map some, ?_, ?_⟩
  · cases r <;> rfl
  · cases r <;> simp [filled, slots, fields, Gives]

/-! ## Faults -/

/-- No slot refuses what a value has there. -/
lemma not_refuses {p : Slot × Datum} (member : p ∈ r.filled v) : ¬Refuses p.1 p.2 := by
  have isPort (port : Port) : ¬port.toDatum.IsNoPort := by
    have bound := port.toNat_lt
    simp only [Port.toDatum, IsNoPort]
    omega
  have some (port : Port) : port.toDatum ≠ .null := by simp [Port.toDatum]
  cases r with
  | plugin =>
    simp only [filled, slots, fields, List.zip_cons_cons, List.zip_nil_right, List.mem_cons,
      List.not_mem_nil, or_false] at member
    rcases member with rfl | rfl <;> simp [Refuses]
  | server | tracker =>
    simp only [filled, slots, fields, List.zip_cons_cons, List.zip_nil_right, List.mem_cons,
      List.not_mem_nil, or_false] at member
    rcases member with rfl | rfl | rfl | rfl <;> simp [Refuses, isPort, some]

lemma slots_eq (r : OptionRecord) (v : r.Value) : r.slots = (r.filled v).map Prod.fst := by
  cases r <;> rfl

lemma exists_filled (listed : slot ∈ r.slots) (v : r.Value) : ∃ d, (slot, d) ∈ r.filled v := by
  rw [slots_eq r v] at listed
  obtain ⟨p, member, rfl⟩ := List.mem_map.mp listed
  exact ⟨p.2, member⟩

lemma Faulty.ofDatum?_eq_none (faulty : r.Faulty d) : r.ofDatum? d = none := by
  rw [Option.eq_none_iff_forall_ne_some]
  intro v read
  cases faulty with
  | repeated listed twice =>
    obtain ⟨d, member⟩ := exists_filled listed v
    rcases ofDatum?_record.mp read _ member with alone | ⟨absent, -⟩
    · simp [alone] at twice
    · simp [absent] at twice
  | member listed written refuses =>
    obtain ⟨d, member⟩ := exists_filled listed v
    have found := mem_named.mpr ⟨written, rfl⟩
    rcases ofDatum?_record.mp read _ member with alone | ⟨absent, -⟩
    · rw [alone, List.mem_singleton] at found
      cases found
      exact not_refuses member refuses
    · simp [absent] at found
  | @item items i slot d listed written refuses =>
    obtain ⟨entries, aligned, gives⟩ := ofDatum?_eq_some_iff.mp read
    simp only [align?, Option.ite_none_right_eq_some, Option.some.injEq] at aligned
    obtain ⟨-, rfl⟩ := aligned
    rw [slots_eq r v, List.getElem?_map] at listed
    obtain ⟨p, filled, rfl⟩ := Option.map_eq_some_iff.mp listed
    have both : (p, some d) ∈ (r.filled v).zip
        ((r.slots.map Slot.name).mapIdx fun i _ => items[i]?) := by
      refine List.mem_of_getElem? (List.getElem?_zip_eq_some.mpr ⟨filled, ?_⟩)
      rw [List.getElem?_mapIdx, slots_eq r v, List.map_map, List.getElem?_map, filled, written]
      rfl
    rcases (List.forall₂_iff_zip.mp gives).2 both with same | ⟨none, -⟩
    · cases same
      exact not_refuses (List.mem_of_getElem? filled) refuses
    · cases none

lemma exact_fields (r : OptionRecord) (v : r.Value) : ∀ d ∈ r.fields v, Json.Exact d := by
  cases r with
  | plugin =>
    simp only [fields, List.forall_mem_cons]
    exact ⟨.text _, .list (List.forall_mem_map.mpr fun s _ => .text s), List.forall_mem_nil _⟩
  | server =>
    simp only [fields, List.forall_mem_cons]
    exact ⟨.text _, .int _, .bool _, .int _, List.forall_mem_nil _⟩
  | tracker =>
    simp only [fields, List.forall_mem_cons]
    exact ⟨.bool _, .int _, .int _, .int _, List.forall_mem_nil _⟩

lemma exact_members (r : OptionRecord) (v : r.Value) : Json.Exact (.record (r.members v)) := by
  refine .record fun m member => ?_
  obtain ⟨p, filled, rfl⟩ := List.mem_map.mp member
  exact exact_fields r v p.2 (List.of_mem_zip filled).2

/-- A value is read in its own compact text, in every text of one of the variants of its record, and
in every text of the list of its data. No value is read in a text with a fault. -/
theorem decoded_as_written (r : OptionRecord) (v : r.Value) :
    r.decode? (r.encode v) = some v ∧
    (∀ (text : String) ms, Json.Writes text.toList (.record ms) → r.Variant v ms →
      r.decode? text = some v) ∧
    (∀ text : String, Json.Writes text.toList (.list (r.fields v)) → r.decode? text = some v) ∧
    ∀ (text : String) d, Json.Writes text.toList d → r.Faulty d → r.decode? text = none := by
  have decoded {text : String} {d : Datum} (writes : Json.Writes text.toList d) :
      r.decode? text = r.ofDatum? d := by
    rw [decode?, Json.parse?_of_writes writes, Option.bind_some]
  refine ⟨?_, ?_, ?_, ?_⟩
  · rw [decode?, encode, toDatum_eq, Json.parse?_text (exact_members r v), Option.bind_some]
    exact ofDatum?_record.mpr Variant.whole.holds
  · intro text ms writes variant
    rw [decoded writes]
    exact ofDatum?_record.mpr variant.holds
  · intro text writes
    rw [decoded writes]
    exact ofDatum?_fields r v
  · intro text d writes faulty
    rw [decoded writes]
    exact faulty.ofDatum?_eq_none

/-- A plugin with a quote and a character outside the basic plane in its argument. -/
def radio : Plugin := ⟨"/opt/radio", ["\"📻"]⟩

/-- Its members with an unknown one in front of them, and in another order. -/
def tuned : List (String × Datum) :=
  [("volume", .list [.null]), ("arguments", .list [.text "\"📻"]),
   ("executable", .text "/opt/radio")]

/-- It is read in this text as it is in the list of its two data. A port that is too large makes a
text that has no options. -/
theorem decoded_tuned :
    decode? .plugin
        "\x7b\"volume\":[null],\"arguments\":[\"\\\"📻\"],\"executable\":\"/opt/radio\"\x7d" =
      some radio ∧
    decode? .plugin "[\"/opt/radio\",[\"\\\"📻\"]]" = some radio ∧
    decode? .server "\x7b\"udp_plugin_local_port\":65536\x7d" = none := by
  have exact : Json.Exact (.record tuned) := by
    refine .record ?_
    simp only [tuned, List.forall_mem_cons]
    exact ⟨.list (List.forall_mem_singleton.mpr .null),
      .list (List.forall_mem_singleton.mpr (.text _)), .text _, List.forall_mem_nil _⟩
  have variant : Variant .plugin radio tuned := by
    have swapped := (Variant.whole (r := .plugin) (v := radio)).permuted (List.Perm.swap _ _ _)
    have front : Variant .plugin radio ([] ++ ("volume", .list [.null]) :: _) :=
      .inserted _ swapped (by decide)
    exact front
  have large : Json.Exact (.record [("udp_plugin_local_port", .int 65536)]) :=
    .record (List.forall_mem_singleton.mpr (.int _))
  have listed : (⟨"udp_plugin_local_port", some (.int 0), true⟩ : Slot) ∈ slots .server :=
    List.mem_cons_of_mem _ List.mem_cons_self
  have faulty : Faulty .server (.record [("udp_plugin_local_port", .int 65536)]) :=
    .member listed List.mem_cons_self (.inr ⟨rfl, .inr (by decide)⟩)
  obtain ⟨-, varied, listed, -⟩ := decoded_as_written .plugin radio
  obtain ⟨-, -, -, refused⟩ := decoded_as_written .server .unset
  refine ⟨varied _ tuned ?_ variant, listed _ ?_, refused _ _ ?_ faulty⟩
  · exact exact.writes_print
  · exact (Json.Exact.list (exact_fields .plugin radio)).writes_print
  · exact large.writes_print

end OptionRecord
end RaceControl
