import Mathlib.Data.List.Basic
import Mathlib.Tactic.IntervalCases
import Mathlib.Tactic.SplitIfs
import RaceControl.Text.Utf8

/-!
Decoding what has been encoded. Well-formed bytes give their text back, and where the first bytes of
an encoding are lost, the decoder is in step again behind the one character that is cut.
-/
namespace RaceControl.Utf8
variable {b : UInt8} {c : Char} {chars text : List Char} {bytes orphans : List UInt8} {n k : Nat}

/-- A byte that never begins a character. -/
def IsContinuation (b : UInt8) : Prop := 0x80 ≤ b.toNat ∧ b.toNat ≤ 0xbf

lemma first_of_isContinuation (continues : IsContinuation b) : first b = .malformed := by
  obtain ⟨least, greatest⟩ := continues
  have above : ¬b ≤ 0x7f := by simp only [UInt8.le_iff_toNat_le, UInt8.reduceToNat]; omega
  have below : b < 0xc2 := by simp only [UInt8.lt_iff_toNat_lt, UInt8.reduceToNat]; omega
  rw [first, if_neg above, if_pos below]

/-! ## The bytes of one character -/

lemma first_single (ascii : n ≤ 0x7f) : first (.ofNat n) = .char (.ofNat n) := by
  interval_cases n <;> rfl

lemma first_double (least : 0xc2 ≤ n) (greatest : n ≤ 0xdf) :
    first (.ofNat n) = .pending ⟨1, n - 0xc0, 0x80, 0xbf⟩ := by
  interval_cases n <;> rfl

/-- The encodings of three bytes leave out those that two would do for, and the surrogates. -/
lemma first_triple (least : 0xe0 ≤ n) (greatest : n ≤ 0xef) :
    first (.ofNat n) = .pending
      ⟨2, n - 0xe0, if n = 0xe0 then 0xa0 else 0x80, if n = 0xed then 0x9f else 0xbf⟩ := by
  interval_cases n <;> rfl

/-- Those of four bytes leave out what three would do for, and what lies beyond all characters. -/
lemma first_quadruple (least : 0xf0 ≤ n) (greatest : n ≤ 0xf4) :
    first (.ofNat n) = .pending
      ⟨3, n - 0xf0, if n = 0xf0 then 0x90 else 0x80, if n = 0xf4 then 0x8f else 0xbf⟩ := by
  interval_cases n <;> rfl

lemma toNat_continuation (six : k < 64) : (UInt8.ofNat (k + 0x80)).toNat = k + 0x80 :=
  UInt8.toNat_ofNat_of_lt' (by unfold UInt8.size; omega)

lemma next_ofNat {p : Pending} (six : k < 64) (least : p.least.toNat ≤ k + 0x80)
    (greatest : k + 0x80 ≤ p.greatest.toNat) :
    p.next (.ofNat (k + 0x80)) =
      if p.owed ≤ 1 then .char (.ofNat (p.bits * 64 + k))
      else .pending ⟨p.owed - 1, p.bits * 64 + k, 0x80, 0xbf⟩ := by
  have value := toNat_continuation six
  have within : p.least ≤ .ofNat (k + 0x80) ∧ .ofNat (k + 0x80) ≤ p.greatest := by
    simp only [UInt8.le_iff_toNat_le, value]
    exact ⟨least, greatest⟩
  rw [Pending.next, if_pos within, value, Nat.add_sub_cancel]

namespace Decoder

lemma push_begin (chars : List Char) (b : UInt8) : push ⟨chars, none⟩ b = begin chars b := rfl

lemma begin_char (known : first b = .char c) : begin chars b = ⟨c :: chars, none⟩ := by
  simp only [begin, known]

lemma begin_pending {p : Pending} (known : first b = .pending p) :
    begin chars b = ⟨chars, some p⟩ := by
  simp only [begin, known]

/-- The last byte of a character. -/
lemma push_last {bits : Nat} {least greatest : UInt8} (six : k < 64)
    (within : least.toNat ≤ k + 0x80 ∧ k + 0x80 ≤ greatest.toNat) :
    push ⟨chars, some ⟨1, bits, least, greatest⟩⟩ (.ofNat (k + 0x80)) =
      ⟨.ofNat (bits * 64 + k) :: chars, none⟩ := by
  simp only [push, next_ofNat (p := ⟨1, bits, least, greatest⟩) six within.1 within.2,
    Nat.le_refl, if_true]

/-- A byte of a character that is neither its first nor its last. -/
lemma push_inner {owed bits : Nat} {least greatest : UInt8} (six : k < 64)
    (within : least.toNat ≤ k + 0x80 ∧ k + 0x80 ≤ greatest.toNat) :
    push ⟨chars, some ⟨owed + 2, bits, least, greatest⟩⟩ (.ofNat (k + 0x80)) =
      ⟨chars, some ⟨owed + 1, bits * 64 + k, 0x80, 0xbf⟩⟩ := by
  have more : ¬owed + 2 ≤ 1 := by omega
  simp only [push, next_ofNat (p := ⟨owed + 2, bits, least, greatest⟩) six within.1 within.2,
    if_neg more, Nat.add_one_sub_one]

/-- The bytes of a character give the character. -/
lemma foldl_push_encodeChar (chars : List Char) (c : Char) :
    (String.utf8EncodeChar c).foldl push ⟨chars, none⟩ = ⟨c :: chars, none⟩ := by
  have valid : c.val.toNat < 0xd800 ∨ 0xdfff < c.val.toNat ∧ c.val.toNat < 0x110000 := c.valid
  have value : Char.ofNat c.val.toNat = c := Char.ofNat_toNat c
  unfold String.utf8EncodeChar
  generalize c.val.toNat = v at valid value
  dsimp only
  split_ifs with single double triple
  · rw [List.foldl_cons, List.foldl_nil, push_begin, begin_char (first_single single), value]
  · have lead : 0xc2 ≤ v / 64 % 32 + 0xc0 ∧ v / 64 % 32 + 0xc0 ≤ 0xdf := by omega
    simp only [List.foldl_cons, List.foldl_nil, push_begin,
      begin_pending (first_double lead.1 lead.2)]
    rw [push_last (by omega) (by simp only [UInt8.reduceToNat]; omega)]
    rw [show (v / 64 % 32 + 0xc0 - 0xc0) * 64 + v % 64 = v by omega, value]
  · have lead : 0xe0 ≤ v / 4096 % 16 + 0xe0 ∧ v / 4096 % 16 + 0xe0 ≤ 0xef := by omega
    simp only [List.foldl_cons, List.foldl_nil, push_begin,
      begin_pending (first_triple lead.1 lead.2)]
    rw [push_inner (by omega) ?within,
      push_last (by omega) (by simp only [UInt8.reduceToNat]; omega)]
    case within => split_ifs <;> simp only [UInt8.reduceToNat] <;> omega
    rw [show ((v / 4096 % 16 + 0xe0 - 0xe0) * 64 + v / 64 % 64) * 64 + v % 64 = v by omega, value]
  · have lead : 0xf0 ≤ v / 262144 % 8 + 0xf0 ∧ v / 262144 % 8 + 0xf0 ≤ 0xf4 := by omega
    simp only [List.foldl_cons, List.foldl_nil, push_begin,
      begin_pending (first_quadruple lead.1 lead.2)]
    rw [push_inner (by omega) ?within,
      push_inner (by omega) (by simp only [UInt8.reduceToNat]; omega),
      push_last (by omega) (by simp only [UInt8.reduceToNat]; omega)]
    case within => split_ifs <;> simp only [UInt8.reduceToNat] <;> omega
    rw [show (((v / 262144 % 8 + 0xf0 - 0xf0) * 64 + v / 4096 % 64) * 64 + v / 64 % 64) * 64 +
      v % 64 = v by omega, value]

/-- Between two characters the bytes of a text give the text. -/
lemma foldl_push_encode (chars text : List Char) :
    (encode text).foldl push ⟨chars, none⟩ = ⟨text.reverse ++ chars, none⟩ := by
  induction text generalizing chars with
  | nil => rfl
  | cons c text ih =>
    rw [encode, List.flatMap_cons, List.foldl_append, foldl_push_encodeChar, ← encode, ih]
    simp

/-- Between two characters each byte that begins none is malformed by itself. -/
lemma foldl_push_continuations (chars : List Char)
    (continues : ∀ b ∈ orphans, IsContinuation b) :
    orphans.foldl push ⟨chars, none⟩ =
      ⟨List.replicate orphans.length replacement ++ chars, none⟩ := by
  induction orphans generalizing chars with
  | nil => rfl
  | cons b orphans ih =>
    obtain ⟨first, rest⟩ := List.forall_mem_cons.mp continues
    rw [List.foldl_cons, push_begin, begin, first_of_isContinuation first, ih _ rest,
      List.length_cons, List.replicate_succ']
    simp

end Decoder

/-- The decoder falls into step behind bytes that begin no character. -/
lemma decodeLossy_append_encode (continues : ∀ b ∈ orphans, IsContinuation b) (text : List Char) :
    decodeLossy (orphans ++ encode text) = List.replicate orphans.length replacement ++ text := by
  rw [decodeLossy, List.foldl_append, Decoder.start, Decoder.foldl_push_continuations _ continues,
    Decoder.foldl_push_encode]
  simp [Decoder.finish]

lemma decodeLossy_encode (text : List Char) : decodeLossy (encode text) = text := by
  have none : ∀ b ∈ ([] : List UInt8), IsContinuation b := List.forall_mem_nil _
  exact decodeLossy_append_encode none text

lemma decode?_eq_some_iff : decode? bytes = some text ↔ encode text = bytes := by
  unfold decode?
  constructor
  · intro decoded
    dsimp only at decoded
    split at decoded
    next whole =>
      rw [← Option.some.inj decoded]
      exact whole
    next => contradiction
  · rintro rfl
    rw [decodeLossy_encode]
    exact if_pos rfl

/-! ## Where an encoding is cut -/

lemma encode_append (text more : List Char) : encode (text ++ more) = encode text ++ encode more :=
  List.flatMap_append

lemma length_encodeChar (c : Char) :
    1 ≤ (String.utf8EncodeChar c).length ∧ (String.utf8EncodeChar c).length ≤ 4 := by
  unfold String.utf8EncodeChar
  dsimp only
  split_ifs <;> simp

/-- All bytes of a character but the first only continue it. -/
lemma isContinuation_of_mem_tail (inner : b ∈ (String.utf8EncodeChar c).tail) :
    IsContinuation b := by
  have continues (k : Nat) : IsContinuation (.ofNat (k % 64 + 0x80)) := by
    rw [IsContinuation, toNat_continuation (Nat.mod_lt k (by decide))]
    omega
  unfold String.utf8EncodeChar at inner
  dsimp only at inner
  split_ifs at inner <;>
    simp only [List.tail_cons, List.mem_cons, List.not_mem_nil, or_false] at inner
  · exact inner ▸ continues _
  · rcases inner with rfl | rfl <;> exact continues _
  · rcases inner with rfl | rfl | rfl <;> exact continues _

/-- What the loss of the first `lost` bytes leaves of the encoding of a text: bytes of the one
character that is cut, if there is one, and the characters behind it. -/
inductive Cut (text : List Char) (lost : Nat) : List UInt8 → List Char → Prop
  | between (gone : List Char) {left : List Char} : gone ++ left = text →
    (encode gone).length = lost → Cut text lost [] left
  | within (gone : List Char) {left : List Char} {c : Char} {head orphans : List UInt8} :
    gone ++ c :: left = text → head ++ orphans = String.utf8EncodeChar c → head ≠ [] →
    orphans ≠ [] → (encode gone).length + head.length = lost → Cut text lost orphans left

namespace Cut
variable {lost : Nat} {left : List Char}

lemma cons (cut : Cut text lost orphans left) (c : Char) :
    Cut (c :: text) ((String.utf8EncodeChar c).length + lost) orphans left := by
  have longer (gone : List Char) :
      (encode (c :: gone)).length = (String.utf8EncodeChar c).length + (encode gone).length :=
    List.length_append
  cases cut with
  | between gone whole length =>
    exact .between (c :: gone) (by rw [List.cons_append, whole]) (by rw [longer, length])
  | within gone whole split head_ne orphans_ne length =>
    exact .within (c :: gone) (by rw [List.cons_append, whole]) split head_ne orphans_ne
      (by rw [longer]; omega)

/-- Wherever an encoding is cut, it is between two characters or within one. -/
lemma exists_of_le (lost : Nat) (text : List Char) (within : lost ≤ (encode text).length) :
    ∃ orphans left, Cut text lost orphans left := by
  induction text generalizing lost with
  | nil => exact ⟨[], [], .between [] rfl (Nat.le_zero.mp within).symm⟩
  | cons c text ih =>
    rcases Nat.eq_zero_or_pos lost with rfl | some
    · exact ⟨[], c :: text, .between [] rfl rfl⟩
    · rcases Nat.lt_or_ge lost (String.utf8EncodeChar c).length with inside | behind
      · refine ⟨(String.utf8EncodeChar c).drop lost, text,
          .within [] rfl (List.take_append_drop lost _) ?_ ?_ ?_⟩
        · rw [ne_eq, List.take_eq_nil_iff, not_or]
          exact ⟨by omega, fun none => by simp [none] at inside⟩
        · rw [ne_eq, List.drop_eq_nil_iff]
          omega
        · rw [List.length_take, Nat.min_eq_left inside.le]
          exact Nat.zero_add _
      · have rest : lost - (String.utf8EncodeChar c).length ≤ (encode text).length := by
          rw [encode, List.flatMap_cons, List.length_append, ← encode] at within
          omega
        obtain ⟨orphans, left, cut⟩ := ih _ rest
        refine ⟨orphans, left, ?_⟩
        rw [← Nat.add_sub_cancel' behind]
        exact cut.cons c

lemma drop_encode (cut : Cut text lost orphans left) :
    (encode text).drop lost = orphans ++ encode left := by
  cases cut with
  | between gone whole length =>
    rw [← whole, encode_append, List.drop_append_of_le_length length.ge, ← length, List.drop_length]
  | @within gone _ c head _ whole split _ _ length =>
    have parts : encode text = (encode gone ++ head) ++ (orphans ++ encode left) := by
      rw [← whole, encode_append, encode.eq_def (c :: left), List.flatMap_cons, ← encode, ← split]
      simp
    rw [parts, ← length, ← List.length_append, List.drop_left]

lemma isContinuation (cut : Cut text lost orphans left) : ∀ b ∈ orphans, IsContinuation b := by
  cases cut with
  | between => simp
  | @within gone _ c head _ whole split head_ne =>
    intro b member
    refine isContinuation_of_mem_tail (c := c) ?_
    rw [← split, List.tail_append_of_ne_nil head_ne]
    exact List.mem_append_right _ member

lemma length_le (cut : Cut text lost orphans left) : orphans.length ≤ 3 := by
  cases cut with
  | between => simp
  | @within gone _ c head _ whole split head_ne =>
    have most := (length_encodeChar c).2
    have some := List.length_pos_iff.mpr head_ne
    rw [← split, List.length_append] at most
    omega

end Cut
end RaceControl.Utf8
