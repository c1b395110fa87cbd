import Mathlib.Tactic.Common
import RaceControl.Relay

/-!
The grammar of addresses. A text is read exactly if it is a host, a colon and a port. Any other text
is refused, with the first fault on the way from its last colon to the port.
-/
namespace RaceControl

namespace Port
variable {text digits : List Char} {port : Port}

/-- The ways to write a port: decimal digits behind an optional plus sign, with any number of
zeros in front. -/
def Writes (text : List Char) (port : Port) : Prop :=
  ∃ digits, (text = digits ∨ text = '+' :: digits) ∧ digits ≠ [] ∧ (∀ c ∈ digits, c.isDigit) ∧
    Nat.ofDigitChars 10 digits 0 = port.toNat

lemma decimal_eq_ofDigitChars (digits : List Char) :
    decimal digits = Nat.ofDigitChars 10 digits 0 := by
  simp only [decimal, Nat.ofDigitChars_eq_foldl, Nat.mul_comm 10]

lemma eq_unsigned_or (text : List Char) : text = unsigned text ∨ text = '+' :: unsigned text := by
  fun_cases unsigned text with
  | case1 digits => exact .inr rfl
  | case2 => exact .inl rfl

/-- A plus sign is no digit, so that digits alone are their own unsigned text. -/
lemma unsigned_of_isDigit (decimal : ∀ c ∈ digits, c.isDigit) : unsigned digits = digits := by
  fun_cases unsigned digits with
  | case1 => exact absurd (decimal '+' List.mem_cons_self) (by decide)
  | case2 => rfl

lemma parse?_eq_some_iff : parse? text = some port ↔ Writes text port := by
  unfold parse?
  dsimp only
  constructor
  · intro parsed
    split_ifs at parsed with fits
    obtain ⟨some, all, bound⟩ := fits
    rw [Option.some.injEq] at parsed
    refine ⟨unsigned text, eq_unsigned_or text, some, List.all_eq_true.mp all, ?_⟩
    rw [← parsed, UInt16.toNat_ofNat_of_lt' bound, decimal_eq_ofDigitChars]
  · rintro ⟨digits, signed, some, all, value⟩
    have same : unsigned text = digits := by
      rcases signed with rfl | rfl
      · exact unsigned_of_isDigit all
      · rfl
    have number : decimal digits = port.toNat := by rw [decimal_eq_ofDigitChars, value]
    rw [same, number, if_pos ⟨some, List.all_eq_true.mpr all, port.toNat_lt⟩, UInt16.ofNat_toNat]

lemma parse?_eq_none_iff : parse? text = none ↔ ∀ port, ¬Writes text port := by
  simp only [Option.eq_none_iff_forall_ne_some, ne_eq, parse?_eq_some_iff]

/-- The shortest way to write a port. -/
lemma writes_repr (port : Port) : Writes port.toNat.repr.toList port := by
  rw [Nat.toList_repr]
  refine ⟨Nat.toDigits 10 port.toNat, .inl rfl, Nat.toDigits_ne_nil, ?_, ?_⟩
  · intro c member
    exact Nat.isDigit_of_mem_toDigits (by decide) (by decide) member
  · exact Nat.ofDigitChars_ten_toDigits

lemma Writes.colon_not_mem (written : Writes text port) : ':' ∉ text := by
  obtain ⟨digits, signed, -, all, -⟩ := written
  have inDigits : ':' ∉ digits := fun member => absurd (all ':' member) (by decide)
  rcases signed with rfl | rfl
  · exact inDigits
  · simpa using inDigits

end Port

namespace Address
variable {c : Char} {text before after host name : List Char} {address : Address}

/-! ## The last colon -/

lemma splitLast_of_not_mem (absent : c ∉ text) : splitLast c text = none := by
  induction text with
  | nil => rfl
  | cons a text ih =>
    rw [List.mem_cons, not_or] at absent
    rw [splitLast, ih absent.2]
    exact if_neg (Ne.symm absent.1)

lemma splitLast_append (before : List Char) (absent : c ∉ after) :
    splitLast c (before ++ c :: after) = some (before, after) := by
  induction before with
  | nil =>
    rw [List.nil_append, splitLast, splitLast_of_not_mem absent]
    exact if_pos rfl
  | cons a before ih => rw [List.cons_append, splitLast, ih]

lemma exists_last_of_mem (member : c ∈ text) :
    ∃ before after, text = before ++ c :: after ∧ c ∉ after := by
  obtain ⟨after, before, reversed, absent⟩ :=
    List.eq_append_cons_of_mem (List.mem_reverse.mpr member)
  refine ⟨before.reverse, after.reverse, ?_, by simpa using absent⟩
  rw [← List.reverse_reverse text, reversed]
  simp

/-! ## Hosts -/

/-- The ways to write a host: in brackets whatever it is, or as it is, if it has no colon and does
not begin with a bracket. -/
inductive WritesHost : List Char → List Char → Prop
  | bracketed (host : List Char) : WritesHost ('[' :: host ++ [']']) host
  | bare {host : List Char} : host.head? ≠ some '[' → ':' ∉ host → WritesHost host host

lemma bareHost_of_head (opens : text.head? ≠ some '[') :
    bareHost text = if ':' ∈ text then .error .tooManyColons else .ok text := by
  fun_cases bareHost text with
  | case1 => exact absurd rfl opens
  | case2 => exact absurd rfl opens
  | case3 _ _ member => rw [if_pos member]
  | case4 _ _ absent => rw [if_neg absent]

lemma WritesHost.bareHost (written : WritesHost text host) : bareHost text = .ok host := by
  cases written with
  | bracketed => simp [Address.bareHost]
  | bare opens colons => rw [bareHost_of_head opens, if_neg colons]

lemma bareHost_unclosed {inner : List Char} (unclosed : ¬[']'] <:+ inner) :
    bareHost ('[' :: inner) = .error .unclosedBracket := by
  have last : inner.getLast? ≠ some ']' := by
    intro closed
    obtain ⟨host, rfl⟩ := List.getLast?_eq_some_iff.mp closed
    exact unclosed ⟨host, rfl⟩
  rw [bareHost]
  split
  · contradiction
  · rfl

/-! ## Addresses -/

/-- A text that stands for an address. -/
def Denotes (text : List Char) (address : Address) : Prop :=
  ∃ host name port, text = host ++ ':' :: port ∧ WritesHost host name ∧
    Port.Writes port address.port ∧
    address.host = if name = [] then "127.0.0.1" else String.ofList name

/-- A text that stands for none, with the first reason for that: each but the first is looked for
behind the last colon or in front of it. -/
inductive Refused : List Char → String → Prop
  | noColon {text : List Char} : ':' ∉ text → Refused text "missing port in address"
  | unclosed {inner port : List Char} : ':' ∉ port → ¬[']'] <:+ inner →
    Refused ('[' :: inner ++ ':' :: port) "missing ']' in address"
  | colons {host port : List Char} : ':' ∉ port → host.head? ≠ some '[' → ':' ∈ host →
    Refused (host ++ ':' :: port) "too many colons in address"
  | port {host name port : List Char} : ':' ∉ port → WritesHost host name →
    (∀ number, ¬Port.Writes port number) → Refused (host ++ ':' :: port) "invalid port"

lemma writesHost_or_faulty (text : List Char) :
    (∃ host, WritesHost text host) ∨ (∃ inner, text = '[' :: inner ∧ ¬[']'] <:+ inner) ∨
      text.head? ≠ some '[' ∧ ':' ∈ text := by
  by_cases opens : text.head? = some '['
  · obtain ⟨inner, rfl⟩ := List.head?_eq_some_iff.mp opens
    by_cases closes : [']'] <:+ inner
    · obtain ⟨host, rfl⟩ := closes
      exact .inl ⟨host, .bracketed host⟩
    · exact .inr (.inl ⟨inner, rfl, closes⟩)
  · by_cases colons : ':' ∈ text
    · exact .inr (.inr ⟨opens, colons⟩)
    · exact .inl ⟨text, .bare opens colons⟩

lemma denotes_or_refused (text : List Char) :
    (∃ address, Denotes text address) ∨ ∃ reason, Refused text reason := by
  by_cases colon : ':' ∈ text
  · obtain ⟨host, port, rfl, absent⟩ := exists_last_of_mem colon
    rcases writesHost_or_faulty host with ⟨name, written⟩ | ⟨inner, rfl, unclosed⟩ | ⟨opens, colons⟩
    · by_cases readable : ∃ number, Port.Writes port number
      · obtain ⟨number, spelled⟩ := readable
        exact .inl ⟨⟨_, number⟩, host, name, port, rfl, written, spelled, rfl⟩
      · exact .inr ⟨_, .port absent written (not_exists.mp readable)⟩
    · exact .inr ⟨_, .unclosed absent unclosed⟩
    · exact .inr ⟨_, .colons absent opens colons⟩
  · exact .inr ⟨_, .noColon colon⟩

lemma parse_append (text : String) (split : text.toList = before ++ ':' :: after)
    (absent : ':' ∉ after) :
    parse text = (bareHost before).bind fun host =>
      match Port.parse? after with
      | none => .error .invalidPort
      | some port => .ok ⟨if host = [] then localHost else String.ofList host, port⟩ := by
  simp only [parse, split, splitLast_append before absent]
  rfl

lemma Denotes.parse {text : String} (denotes : Denotes text.toList address) :
    parse text = .ok address := by
  obtain ⟨hostName, number⟩ := address
  obtain ⟨host, name, port, split, written, spelled, rfl⟩ := denotes
  rw [parse_append text split spelled.colon_not_mem, written.bareHost]
  simp only [Except.bind, Port.parse?_eq_some_iff.mpr spelled]
  rfl

lemma Refused.parse {text : String} {reason : String} (refused : Refused text.toList reason) :
    ∃ fault, parse text = .error fault ∧ fault.reason = reason := by
  generalize split : text.toList = chars at refused
  cases refused with
  | noColon absent =>
    refine ⟨.missingPort, ?_, rfl⟩
    simp only [Address.parse, split, splitLast_of_not_mem absent]
  | unclosed absent unclosed =>
    refine ⟨.unclosedBracket, ?_, rfl⟩
    rw [parse_append text split absent, bareHost_unclosed unclosed]
    rfl
  | colons absent opens colons =>
    refine ⟨.tooManyColons, ?_, rfl⟩
    rw [parse_append text split absent, bareHost_of_head opens, if_pos colons]
    rfl
  | port absent written unreadable =>
    refine ⟨.invalidPort, ?_, rfl⟩
    rw [parse_append text split absent, written.bareHost]
    simp only [Except.bind, Port.parse?_eq_none_iff.mpr unreadable]

lemma parse_eq_ok_iff {text : String} : parse text = .ok address ↔ Denotes text.toList address := by
  constructor
  · intro parsed
    rcases denotes_or_refused text.toList with ⟨other, denotes⟩ | ⟨reason, refused⟩
    · rw [denotes.parse, Except.ok.injEq] at parsed
      rwa [← parsed]
    · obtain ⟨fault, failed, -⟩ := refused.parse
      rw [failed] at parsed
      contradiction
  · exact Denotes.parse

lemma parse_eq_error_iff {text : String} {fault : AddressFault} :
    parse text = .error fault ↔ Refused text.toList fault.reason := by
  have reason_injective (a b : AddressFault) : a.reason = b.reason → a = b := by
    cases a <;> cases b <;> decide
  constructor
  · intro failed
    rcases denotes_or_refused text.toList with ⟨address, denotes⟩ | ⟨reason, refused⟩
    · rw [denotes.parse] at failed
      contradiction
    · obtain ⟨other, same, rfl⟩ := refused.parse
      rw [same, Except.error.injEq] at failed
      rwa [← failed]
  · intro refused
    obtain ⟨other, failed, same⟩ := refused.parse
    rw [failed, reason_injective other fault same]

/-- A text that is refused is named, as it is, in the failure of the relay that is to use it. -/
lemma locate_eq_invalidAddress_iff {net : NetworkView} {text named reason : String} :
    Relay.locate net text = .error (.invalidAddress named reason) ↔
      named = text ∧ Refused text.toList reason := by
  unfold Relay.locate
  constructor
  · intro failed
    split at failed
    next fault refused =>
      rw [Except.error.injEq, RelayError.invalidAddress.injEq] at failed
      exact ⟨failed.1.symm, failed.2 ▸ parse_eq_error_iff.mp refused⟩
    next => split at failed <;> cases failed
  · rintro ⟨rfl, refused⟩
    obtain ⟨fault, failed, rfl⟩ := refused.parse
    rw [failed]

/-! ## Writing and reading back -/

/-- The text of an address with its host in brackets. -/
def bracketedName (a : Address) : String := s!"[{a.host}]:{a.port.toNat}"

lemma denotes_of_writesHost (named : address.host ≠ "")
    (written : WritesHost host address.host.toList) :
    Denotes (host ++ ':' :: address.port.toNat.repr.toList) address := by
  refine ⟨host, address.host.toList, _, rfl, written, Port.writes_repr address.port, ?_⟩
  rw [if_neg (by simpa using named), String.ofList_toList]

lemma toList_name (a : Address) :
    a.name.toList = a.host.toList ++ ':' :: a.port.toNat.repr.toList := by
  simp [name, toString]

lemma toList_bracketedName (a : Address) :
    a.bracketedName.toList =
      ('[' :: a.host.toList ++ [']']) ++ ':' :: a.port.toNat.repr.toList := by
  simp [bracketedName, toString]

/-- A text is read as the address that it stands for and is refused only if it stands for none.
An address with a host is read back from its text in brackets, and from its plain text unless the
host would be taken apart. -/
theorem reads_exactly (text : String) :
    (∀ address, parse text = .ok address ↔ Denotes text.toList address) ∧
    (∀ fault, parse text = .error fault ↔ Refused text.toList fault.reason) ∧
    (∀ net named reason, Relay.locate net text = .error (.invalidAddress named reason) ↔
      named = text ∧ Refused text.toList reason) ∧
    ∀ address, address.host ≠ "" →
      (text = address.bracketedName → parse text = .ok address) ∧
      (text = address.name → ':' ∉ address.host.toList →
        address.host.toList.head? ≠ some '[' → parse text = .ok address) := by
  refine ⟨fun _ => parse_eq_ok_iff, fun _ => parse_eq_error_iff,
    fun _ _ _ => locate_eq_invalidAddress_iff, fun address named => ⟨?_, ?_⟩⟩
  · rintro rfl
    apply Denotes.parse
    rw [toList_bracketedName]
    exact denotes_of_writesHost named (.bracketed address.host.toList)
  · rintro rfl colons opens
    apply Denotes.parse
    rw [toList_name]
    exact denotes_of_writesHost named (.bare opens colons)

theorem reads_loopback :
    parse "[::1]:9600" = .ok ⟨"::1", 9600⟩ ∧
      parse "localhost:11000" = .ok ⟨"localhost", 11000⟩ := by
  have bracketed := (reads_exactly "[::1]:9600").2.2.2 ⟨"::1", 9600⟩ (by decide)
  have plain := (reads_exactly "localhost:11000").2.2.2 ⟨"localhost", 11000⟩ (by decide)
  exact ⟨bracketed.1 (by decide), plain.2 (by decide) (by decide) (by decide)⟩

end Address
end RaceControl
