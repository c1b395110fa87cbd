/-!
Decimal notation of floating point numbers: reading with correct rounding, and the fewest digits
that read back as the same number.
-/
namespace RaceControl.Decimal

/-- The number `digits * 10 ^ exponent`. Exponents far outside the range of a float are answered
without computing the power. -/
def toFloat (digits : Nat) (exponent : Int) : Float :=
  let magnitude : Int := (Nat.toDigits 10 digits).length + exponent
  if digits = 0 then 0.0
  else if magnitude > 400 then 1.0 / 0.0
  else if magnitude < -400 then 0.0
  else Float.ofScientific digits (exponent < 0) exponent.natAbs

/-- A positive finite float as `mantissa * 2 ^ exponent`. The flag tells that the gap below it is
half the gap above. -/
structure Binary where
  mantissa : Nat
  exponent : Int
  narrowBelow : Bool
  deriving DecidableEq, Repr

/-- The parts of the bits of a finite float, without its sign. -/
def Binary.ofBits (bits : UInt64) : Binary :=
  let fraction : Nat := bits.toNat % Nat.pow 2 52
  let biased : Nat := (bits.toNat >>> 52) % Nat.pow 2 11
  if biased = 0 then ⟨fraction, -1074, false⟩
  else ⟨Nat.pow 2 52 + fraction, biased - 1075, fraction = 0 ∧ biased > 1⟩

/-- A nonnegative quotient. -/
structure Ratio where
  num : Nat
  den : Nat
  deriving Repr

namespace Ratio

/-- The ratio times a power of the base. -/
def scale (base : Nat) (r : Ratio) (exponent : Int) : Ratio :=
  if exponent < 0 then ⟨r.num, r.den * Nat.pow base exponent.natAbs⟩
  else ⟨r.num * Nat.pow base exponent.natAbs, r.den⟩

def lt (a b : Ratio) : Bool := a.num * b.den < b.num * a.den

def le (a b : Ratio) : Bool := a.num * b.den ≤ b.num * a.den

/-- The exponent of the first decimal digit of a positive ratio. -/
def decade (r : Ratio) : Int :=
  if r.num ≥ r.den then (Nat.toDigits 10 (r.num / r.den)).length - 1
  else
    let below : Int := -((Nat.toDigits 10 (r.den / r.num)).length : Int)
    if (Ratio.mk 1 1).scale 10 (below + 1) |>.le r then below + 1 else below

end Ratio

/-- The value of a float, and the ends of the interval that rounds to it. -/
def Binary.bounds (b : Binary) : Ratio × Ratio × Ratio :=
  let at_ (n : Nat) := (Ratio.mk n 1).scale 2 (b.exponent - 2)
  (at_ (4 * b.mantissa - if b.narrowBelow then 1 else 2), at_ (4 * b.mantissa),
    at_ (4 * b.mantissa + 2))

/-- The multiple of `10 ^ exponent` that rounds to the float, the nearer of the two beside its
value; of two equally near the even one. -/
def Binary.onGrid? (b : Binary) (exponent : Int) : Option Nat :=
  let (low, value, high) := b.bounds
  let grid (n : Nat) := (Ratio.mk n 1).scale 10 exponent
  let inside (n : Nat) : Bool :=
    if b.mantissa % 2 = 0 then low.le (grid n) && (grid n).le high
    else low.lt (grid n) && (grid n).lt high
  let scaled := value.scale 10 (-exponent)
  let down := scaled.num / scaled.den
  let rest := 2 * (scaled.num % scaled.den)
  let downFirst := rest < scaled.den ∨ (rest = scaled.den ∧ down % 2 = 0)
  match inside down && down > 0, inside (down + 1) with
  | true, true => some (if downFirst then down else down + 1)
  | true, false => some down
  | false, true => some (down + 1)
  | false, false => none

/-- Ten units of one place are one of the next. A value just below a power of ten may round up to
it. -/
def carried (digits : Nat) (exponent : Int) : Nat × Int :=
  if digits = 10 then (1, exponent + 1) else (digits, exponent)

/-- The fewest digits that read back as the float, and the exponent of the last of them. -/
def Binary.shortest (b : Binary) : Nat × Int :=
  let (_, value, _) := b.bounds
  let decade := value.decade
  let attempt := (List.range 17).findSome? fun (n : Nat) =>
    (b.onGrid? (decade - n)).map fun digits => carried digits (decade - n)
  attempt.getD (0, 0)

/-- How the digits of a float are laid out: up to which place of the point they are written without
an exponent, to the right and to the left. -/
structure Layout where
  greatestPoint : Int
  leastPoint : Int

/-- Numbers from 0.00001 up to below ten to the sixteenth are written without an exponent, and
always with a fraction. -/
def plain : Layout := ⟨16, -4⟩

def zeros (n : Nat) : List Char := List.replicate n '0'

/-- Lays out `digits * 10 ^ exponent`. -/
def Layout.text (layout : Layout) (digits : Nat) (exponent : Int) : List Char :=
  let ds := Nat.toDigits 10 digits
  let point : Int := ds.length + exponent
  if layout.leastPoint ≤ point ∧ point ≤ layout.greatestPoint then
    if 0 ≤ exponent then ds ++ zeros exponent.toNat ++ ['.', '0']
    else if 0 < point then ds.take point.toNat ++ '.' :: ds.drop point.toNat
    else '0' :: '.' :: zeros point.natAbs ++ ds
  else
    let sign := if point - 1 < 0 then '-' else '+'
    let tail := 'e' :: sign :: Nat.toDigits 10 (point - 1).natAbs
    match ds with
    | [d] => d :: tail
    | d :: more => d :: '.' :: more ++ tail
    | [] => tail

/-- The text of a finite float, from its bits. -/
def ofBits (bits : UInt64) : List Char :=
  let sign := if bits.toNat >>> 63 = 1 then ['-'] else []
  let b := Binary.ofBits bits
  if b.mantissa = 0 then sign ++ ['0', '.', '0']
  else
    let (digits, exponent) := b.shortest
    sign ++ plain.text digits exponent

end RaceControl.Decimal
