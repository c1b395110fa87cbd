import Mathlib.Data.List.Basic
import RaceControl.Json.Parser
import RaceControl.Json.Printer
import RaceControl.Proofs.Address

/-!
The parts of JSON text that hold no others: quoted texts and numbers. For each it is said how it can
be written, and that the reader finds in it what has been written, whatever stands behind it. The
printer writes every text and every whole number in one of these ways.
-/
namespace RaceControl.Json

/-! ## Quoted texts -/

/-- What stands between quotes, with the code points and halves of code points that it writes. -/
inductive Spells : List Char → List Nat → Prop
  | nil : Spells [] []
  | plain {c : Char} {cs : List Char} {us : List Nat} : 0x20 ≤ c.toNat → c ≠ '"' → c ≠ '\\' →
    Spells cs us → Spells (c :: cs) (c.toNat :: us)
  | short {letter c : Char} {cs : List Char} {us : List Nat} : shortEscape? letter = some c →
    Spells cs us → Spells ('\\' :: letter :: cs) (c.toNat :: us)
  | unit {a b c d : Char} {u : Nat} {cs : List Char} {us : List Nat} : unit? a b c d = some u →
    Spells cs us → Spells ('\\' :: 'u' :: a :: b :: c :: d :: cs) (u :: us)

/-- The characters that code points and halves make. A half stands for nothing alone. -/
inductive Joins : List Nat → List Char → Prop
  | nil : Joins [] []
  | whole {c : Char} {us : List Nat} {cs : List Char} : Joins us cs →
    Joins (c.toNat :: us) (c :: cs)
  | halves {c : Char} {us : List Nat} {cs : List Char} : 0x10000 ≤ c.toNat → Joins us cs →
    Joins ((0xd800 + (c.toNat - 0x10000) / 0x400) :: (0xdc00 + (c.toNat - 0x10000) % 0x400) :: us)
      (c :: cs)

/-- A text with its quotes, and what it says; none where half a character stands alone. -/
inductive Quotes : List Char → Option String → Prop
  | readable {cs chars : List Char} {us : List Nat} : Spells cs us → Joins us chars →
    Quotes ('"' :: cs ++ ['"']) (some (String.ofList chars))
  | unreadable {cs : List Char} {us : List Nat} : Spells cs us → (∀ chars, ¬Joins us chars) →
    Quotes ('"' :: cs ++ ['"']) none

variable {cs rest chars : List Char} {us : List Nat} {u : Nat} {s : Option String}

lemma Spells.units (spells : Spells cs us) (rest : List Char) :
    units (cs ++ '"' :: rest) = some (us, rest) := by
  induction spells with
  | nil => rfl
  | plain visible _ backslash spells ih =>
    simp [Json.units, backslash, Nat.not_lt.mpr visible, ih]
  | @short letter c cs us escape spells ih =>
    have other : letter ≠ 'u' := by
      rintro rfl
      contradiction
    simp [Json.units, other, escape, ih]
  | unit unit spells ih => simp [Json.units, unit, ih]

lemma toNat_cases (c : Char) :
    c.toNat < 0xd800 ∨ (0xe000 ≤ c.toNat ∧ c.toNat < 0x110000) := c.valid

lemma Joins.characters? (joins : Joins us chars) : characters? us = some chars := by
  induction joins with
  | nil => rfl
  | @whole c us chars joins ih =>
    have whole : isHigh c.toNat = false ∧ isLow c.toNat = false := by
      have valid := toNat_cases c
      simp [isHigh, isLow]
      omega
    cases us with
    | nil =>
      cases joins
      simp [Json.characters?, whole, Char.ofNat_toNat]
    | cons u us => simp [Json.characters?, whole, ih, Char.ofNat_toNat]
  | @halves c us chars wide joins ih =>
    have valid := toNat_cases c
    have high : isHigh (0xd800 + (c.toNat - 0x10000) / 0x400) = true := by
      simp [isHigh]
      omega
    have low : isLow (0xdc00 + (c.toNat - 0x10000) % 0x400) = true := by
      simp [isLow]
      omega
    have sum : 0x10000 + (c.toNat - 0x10000) / 0x400 * 0x400 + (c.toNat - 0x10000) % 0x400 =
        c.toNat := by
      rw [Nat.add_assoc, Nat.div_add_mod']
      omega
    simp [Json.characters?, high, low, ih, sum, Char.ofNat_toNat]

lemma toNat_ofNat {n : Nat} (valid : n.isValidChar) : (Char.ofNat n).toNat = n := by
  rw [Char.ofNat, dif_pos valid]
  rfl

lemma Joins.single {us : List Nat} (half : isHigh u = false ∧ isLow u = false)
    (bound : u < 0x110000) (joins : Joins us chars) : Joins (u :: us) (Char.ofNat u :: chars) := by
  have valid : u.isValidChar := by
    simp [isHigh, isLow] at half
    unfold Nat.isValidChar
    omega
  have whole := joins.whole (c := Char.ofNat u)
  rwa [toNat_ofNat valid] at whole

lemma Joins.pair {high low : Nat} (isHigh : isHigh high = true) (isLow : isLow low = true)
    (joins : Joins us chars) : Joins (high :: low :: us)
      (Char.ofNat (0x10000 + (high - 0xd800) * 0x400 + (low - 0xdc00)) :: chars) := by
  simp only [Json.isHigh, Json.isLow, Bool.and_eq_true, decide_eq_true_eq] at isHigh isLow
  generalize sum : 0x10000 + (high - 0xd800) * 0x400 + (low - 0xdc00) = n
  have valid : n.isValidChar := by
    unfold Nat.isValidChar
    omega
  have halves := joins.halves (c := Char.ofNat n) (by rw [toNat_ofNat valid]; omega)
  rw [toNat_ofNat valid] at halves
  have first : 0xd800 + (n - 0x10000) / 0x400 = high := by omega
  have second : 0xdc00 + (n - 0x10000) % 0x400 = low := by omega
  rwa [first, second] at halves

/-- What the reader makes of code points and halves is what they make. -/
lemma joins_of_characters? (bound : ∀ u ∈ us, u < 0x110000) (read : characters? us = some chars) :
    Joins us chars := by
  induction us using Json.characters?.induct generalizing chars with
  | case1 =>
    cases read
    exact .nil
  | case2 u half => simp [Json.characters?, half] at read
  | case3 u whole =>
    simp only [Bool.or_eq_true, not_or, Bool.not_eq_true] at whole
    simp [Json.characters?, whole] at read
    subst read
    exact Joins.nil.single whole (bound u (by simp))
  | case4 u v us high low ih =>
    simp only [Json.characters?, high, low, if_true] at read
    obtain ⟨more, later, same⟩ := Option.bind_eq_some_iff.mp read
    cases same
    have joins := ih (fun w member => bound w (by simp [member])) later
    exact joins.pair high low
  | case5 u v us high low => simp [Json.characters?, high, low] at read
  | case6 u v us high low => simp [Json.characters?, high, low] at read
  | case7 u v us high low ih =>
    simp only [Json.characters?, high, low] at read
    obtain ⟨more, later, same⟩ := Option.bind_eq_some_iff.mp read
    cases same
    have joins := ih (fun w member => bound w (by simp [member])) later
    exact joins.single (by simp [high, low]) (bound u (by simp))

lemma toNat_le_of_le {c d : Char} (le : c ≤ d) : c.toNat ≤ d.toNat := UInt32.le_iff_toNat_le.mp le

lemma hexValue?_lt {c : Char} {n : Nat} (read : hexValue? c = some n) : n < 16 := by
  unfold hexValue? at read
  split_ifs at read with digit small large
  · obtain ⟨-, last⟩ := Bool.and_eq_true_iff.mp digit
    have bound : c.toNat ≤ '9'.toNat := toNat_le_of_le (of_decide_eq_true last)
    cases read
    simp at bound ⊢
    omega
  · have bound := toNat_le_of_le small.2
    cases read
    simp at bound ⊢
    omega
  · have bound := toNat_le_of_le large.2
    cases read
    simp at bound ⊢
    omega

lemma unit?_lt {a b c d : Char} (read : unit? a b c d = some u) : u < 0x10000 := by
  simp only [unit?, Option.bind_eq_bind, Option.bind_eq_some_iff, Option.pure_def] at read
  obtain ⟨x, first, y, second, z, third, w, fourth, same⟩ := read
  have bounds : x < 16 ∧ y < 16 ∧ z < 16 ∧ w < 16 :=
    ⟨hexValue?_lt first, hexValue?_lt second, hexValue?_lt third, hexValue?_lt fourth⟩
  cases same
  omega

lemma Spells.bound (spells : Spells cs us) : ∀ u ∈ us, u < 0x110000 := by
  induction spells with
  | nil => simp
  | @plain c _ _ _ _ _ _ ih | @short _ c _ _ _ _ ih =>
    rw [List.forall_mem_cons]
    have valid := toNat_cases c
    exact ⟨by omega, ih⟩
  | unit unit _ ih =>
    rw [List.forall_mem_cons]
    have small := unit?_lt unit
    exact ⟨by omega, ih⟩

/-- The reader finds in a quoted text what it says. -/
lemma Quotes.units (quotes : Quotes cs s) : ∃ inner us, cs = '"' :: inner ++ ['"'] ∧
    (∀ rest, units (inner ++ '"' :: rest) = some (us, rest)) ∧
    (characters? us).map String.ofList = s := by
  cases quotes with
  | @readable inner chars us spells joins =>
    exact ⟨inner, us, rfl, spells.units, by rw [joins.characters?]; rfl⟩
  | @unreadable inner us spells none =>
    refine ⟨inner, us, rfl, spells.units, ?_⟩
    cases read : characters? us with
    | none => rfl
    | some chars => exact absurd (joins_of_characters? spells.bound read) (none chars)

lemma Quotes.name (quotes : Quotes cs s) (rest : List Char) :
    name (cs ++ rest) = some (s, rest) := by
  obtain ⟨inner, us, rfl, units, rfl⟩ := quotes.units
  simp [Json.name, units]

/-! The printer escapes the characters that cannot stand between quotes as they are. -/

lemma unit?_control :
    ∀ n < 0x20, unit? '0' '0' (hexDigit (n / 16)) (hexDigit (n % 16)) = some n := by
  decide

lemma Spells.escape (c : Char) (spells : Spells cs us) :
    Spells (escape c ++ cs) (c.toNat :: us) := by
  unfold Json.escape
  split_ifs with quote backslash backspace feed line back tab control
  · subst quote
    exact spells.short rfl
  · subst backslash
    exact spells.short rfl
  · subst backspace
    exact spells.short rfl
  · subst feed
    exact spells.short rfl
  · subst line
    exact spells.short rfl
  · subst back
    exact spells.short rfl
  · subst tab
    exact spells.short rfl
  · exact spells.unit (unit?_control c.toNat control)
  · exact spells.plain (Nat.le_of_not_lt control) quote backslash

lemma spells_escaped (text : List Char) : Spells (text.flatMap escape) (text.map Char.toNat) := by
  induction text with
  | nil => exact .nil
  | cons c text ih => exact ih.escape c

lemma joins_map (text : List Char) : Joins (text.map Char.toNat) text := by
  induction text with
  | nil => exact .nil
  | cons c text ih => exact ih.whole

lemma quotes_quoted (text : List Char) : Quotes (quoted text) (some (String.ofList text)) :=
  .readable (spells_escaped text) (joins_map text)

/-! ## Numbers -/

/-- Decimal digits, one at least. -/
abbrev Digits : Type := { ds : List Char // ds ≠ [] ∧ ∀ c ∈ ds, c.isDigit = true }

/-- An exponent behind a number. -/
structure Exponent where
  letter : Char
  sign : List Char
  digits : Digits
  isLetter : letter = 'e' ∨ letter = 'E'
  isSign : sign = [] ∨ sign = ['+'] ∨ sign = ['-']

namespace Exponent

def text (e : Exponent) : List Char := e.letter :: (e.sign ++ e.digits.val)

def value (e : Exponent) : Int :=
  let n := Nat.ofDigitChars 10 e.digits.val 0
  if e.sign = ['-'] then -n else n

end Exponent

/-- A number as it is written. It has no zero in front of other digits. -/
structure Numeral where
  negative : Bool
  whole : Digits
  fraction : Option Digits
  exponent : Option Exponent
  noLeadingZero : whole.val.head? = some '0' → whole.val = ['0']

namespace Numeral

def text (n : Numeral) : List Char :=
  (if n.negative then ['-'] else []) ++ n.whole.val ++
    (n.fraction.elim [] ('.' :: ·.val) ++ n.exponent.elim [] Exponent.text)

/-- A number without fraction and exponent is a whole number, but minus zero is not. -/
def datum (n : Numeral) : Datum :=
  let whole := Nat.ofDigitChars 10 n.whole.val 0
  if n.fraction.isNone ∧ n.exponent.isNone ∧ ¬(n.negative = true ∧ whole = 0) then
    .int (if n.negative then -whole else whole)
  else
    let tail := (n.fraction.map Subtype.val).getD []
    let x := Decimal.toFloat (Nat.ofDigitChars 10 (n.whole.val ++ tail) 0)
      ((n.exponent.map Exponent.value).getD 0 - tail.length)
    .float (if n.negative then -x else x)

end Numeral

/-- A text with which no number goes on. -/
def Ends (rest : List Char) : Prop :=
  ∀ c, rest.head? = some c → c.isDigit = false ∧ c ≠ '.' ∧ c ≠ 'e' ∧ c ≠ 'E'

lemma natural_eq_ofDigitChars (ds : List Char) : natural ds = Nat.ofDigitChars 10 ds 0 :=
  Port.decimal_eq_ofDigitChars ds

lemma digits_append (ds : Digits) (stops : ∀ c, rest.head? = some c → c.isDigit = false) :
    digits (ds.val ++ rest) = (ds.val, rest) := by
  have taken : rest.takeWhile Char.isDigit = [] ∧ rest.dropWhile Char.isDigit = rest := by
    cases rest with
    | nil => exact ⟨rfl, rfl⟩
    | cons c rest => simp [stops c rfl]
  rw [digits, List.takeWhile_append_of_pos ds.property.2,
    List.dropWhile_append_of_pos ds.property.2, taken.1, taken.2, List.append_nil]

lemma Exponent.head_append (exponent : Option Exponent) (ends : Ends rest) :
    ∀ c, (exponent.elim [] Exponent.text ++ rest).head? = some c → c.isDigit = false ∧ c ≠ '.' := by
  cases exponent with
  | none => exact fun c first => ⟨(ends c first).1, (ends c first).2.1⟩
  | some e =>
    intro c first
    cases first
    rcases e.isLetter with letter | letter <;> simp [letter]

/-- Digits begin with a digit, so with no sign. -/
lemma Digits.append_ne (ds : Digits) {c : Char} (sign : c.isDigit = false) (cs : List Char) :
    ds.val ++ rest ≠ c :: cs := by
  obtain ⟨ds, some, all⟩ := ds
  cases ds with
  | nil => contradiction
  | cons d more =>
    intro same
    cases same
    exact Bool.false_ne_true (sign.symm.trans (all _ List.mem_cons_self))

lemma exponent?_append (exponent : Option Exponent) (ends : Ends rest) :
    exponent? (exponent.elim [] Exponent.text ++ rest) =
      some (exponent.map Exponent.value, rest) := by
  cases exponent with
  | none =>
    cases rest with
    | nil => rfl
    | cons c rest =>
      obtain ⟨-, -, small, large⟩ := ends c rfl
      simp [exponent?, small, large]
  | some e =>
    have digits := digits_append e.digits fun c first => (ends c first).1
    have some : e.digits.val.isEmpty = false := by simpa using e.digits.property.1
    have letter := e.isLetter
    simp only [Option.elim_some, Exponent.text, List.cons_append, List.append_assoc, exponent?,
      if_pos letter, Option.map_some, Exponent.value]
    rcases e.isSign with sign | sign | sign
    · rw [sign, List.nil_append]
      split
      next cs same => exact absurd same (e.digits.append_ne rfl cs)
      next cs same => exact absurd same (e.digits.append_ne rfl cs)
      next => simp [digits, some, natural_eq_ofDigitChars]
    · simp [sign, digits, some, natural_eq_ofDigitChars]
    · simp [sign, digits, some, natural_eq_ofDigitChars]

lemma fraction?_append (fraction : Option Digits)
    (stops : ∀ c, rest.head? = some c → c.isDigit = false ∧ c ≠ '.') :
    fraction? (fraction.elim [] ('.' :: ·.val) ++ rest) =
      some (fraction.map Subtype.val, rest) := by
  cases fraction with
  | none =>
    cases rest with
    | nil => rfl
    | cons c rest => simp [fraction?, (stops c rfl).2]
  | some ds =>
    have digits := digits_append ds fun c first => (stops c first).1
    have some : ds.val.isEmpty = false := by simpa using ds.property.1
    simp [fraction?, digits, some]

lemma Numeral.number (n : Numeral) (ends : Ends rest) :
    number (n.text ++ rest) = some (n.datum, rest) := by
  generalize tail : n.exponent.elim [] Exponent.text ++ rest = behind
  have stops : ∀ c, behind.head? = some c → c.isDigit = false ∧ c ≠ '.' := by
    rw [← tail]
    exact Exponent.head_append n.exponent ends
  have exponent : exponent? behind = some (n.exponent.map Exponent.value, rest) := by
    rw [← tail]
    exact exponent?_append n.exponent ends
  have fraction := fraction?_append n.fraction stops
  have whole : digits (n.whole.val ++ (n.fraction.elim [] ('.' :: ·.val) ++ behind)) =
      (n.whole.val, n.fraction.elim [] ('.' :: ·.val) ++ behind) := by
    refine digits_append n.whole fun c first => ?_
    cases present : n.fraction with
    | none => exact (stops c (by simpa [present] using first)).1
    | some ds =>
      rw [present] at first
      cases first
      rfl
  have some : n.whole.val.isEmpty = false := by simpa using n.whole.property.1
  have lead : ¬(n.whole.val.length > 1 ∧ n.whole.val.head? = Option.some '0') := by
    rintro ⟨long, zero⟩
    rw [n.noLeadingZero zero] at long
    contradiction
  have text : n.text ++ rest = (if n.negative then ['-'] else []) ++
      (n.whole.val ++ (n.fraction.elim [] ('.' :: ·.val) ++ behind)) := by
    rw [← tail, Numeral.text, List.append_assoc, List.append_assoc, List.append_assoc]
  rw [text]
  cases negative : n.negative with
  | true =>
    rw [if_pos rfl, List.singleton_append, Json.number]
    simp [whole, some, lead, fraction, exponent, datum, negative, natural_eq_ofDigitChars]
    split_ifs <;> rfl
  | false =>
    rw [if_neg Bool.false_ne_true, List.nil_append, Json.number]
    · simp [whole, some, lead, fraction, exponent, datum, negative, natural_eq_ofDigitChars]
      split_ifs <;> rfl
    · exact fun cs => n.whole.append_ne rfl cs

/-! The printer writes a whole number without zeros in front of it. -/

/-- The digits of a whole number. -/
def Digits.ofNat (n : Nat) : Digits :=
  ⟨Nat.toDigits 10 n, Nat.toDigits_ne_nil, fun _ member =>
    Nat.isDigit_of_mem_toDigits (by decide) (by decide) member⟩

lemma toDigits_of_head {n : Nat} (zero : (Nat.toDigits 10 n).head? = some '0') :
    Nat.toDigits 10 n = ['0'] := by
  induction n using Nat.strongRecOn with
  | ind n ih =>
    by_cases small : n < 10
    · rw [Nat.toDigits_of_lt_base small] at zero ⊢
      simpa using zero
    · -- the first digit is that of a tenth, which is not zero
      have tenth : Nat.toDigits 10 n = Nat.toDigits 10 (n / 10) ++ [(n % 10).digitChar] :=
        Nat.toDigits_of_base_le (by decide) (by omega)
      rw [tenth, List.head?_append_of_ne_nil _ Nat.toDigits_ne_nil] at zero
      have none := congrArg (Nat.ofDigitChars 10 · 0) (ih (n / 10) (by omega) zero)
      simp only [Nat.ofDigitChars_ten_toDigits] at none
      have nothing : Nat.ofDigitChars 10 ['0'] 0 = 0 := rfl
      omega

/-- How a whole number is printed. -/
def Numeral.ofInt (n : Int) : Numeral where
  negative := n < 0
  whole := .ofNat n.natAbs
  fraction := none
  exponent := none
  noLeadingZero := toDigits_of_head

lemma Numeral.text_ofInt (n : Int) : (ofInt n).text = integer n := by
  by_cases negative : n < 0
  · simp [ofInt, text, integer, negative, Digits.ofNat]
  · have same : n.natAbs = n.toNat := by omega
    simp [ofInt, text, integer, negative, Digits.ofNat, same]

lemma Numeral.datum_ofInt (n : Int) : (ofInt n).datum = .int n := by
  have value : Nat.ofDigitChars 10 (Digits.ofNat n.natAbs).val 0 = n.natAbs :=
    Nat.ofDigitChars_ten_toDigits
  by_cases negative : n < 0
  · have sign : -(n.natAbs : Int) = n := by omega
    have some : n ≠ 0 := by omega
    simpa [ofInt, datum, value, negative, some] using sign
  · have sign : (n.natAbs : Int) = n := by omega
    simpa [ofInt, datum, value, negative] using sign

end RaceControl.Json
