import RaceControl.Port

/-!
Internet addresses with a port. Each has one canonical text: the longest run of zero segments of a
version six address is left out, and one that embeds a version four address shows it.
-/
namespace RaceControl

inductive IpAddress
  | v4 (a b c d : UInt8)
  | v6 (segments : List UInt16) (zone : Nat)
  deriving DecidableEq, Repr, Inhabited

structure SocketAddress where
  ip : IpAddress
  port : Port
  deriving DecidableEq, Repr, Inhabited

namespace IpAddress

def loopback : IpAddress := .v4 127 0 0 1

def unspecified : IpAddress := .v4 0 0 0 0

/-- The number written in a base by a run of digits; none where a character is no digit. -/
def digits? (base : Nat) (text : List Char) : Option Nat :=
  if text.isEmpty then none else
  text.foldlM (fun n c =>
    let d :=
      if c.isDigit then c.toNat - '0'.toNat
      else if 'a' ≤ c ∧ c ≤ 'f' then c.toNat - 'a'.toNat + 10
      else if 'A' ≤ c ∧ c ≤ 'F' then c.toNat - 'A'.toNat + 10
      else base
    if d < base then some (n * base + d) else none) 0

/-- One byte in decimal, without leading zeros. -/
def octet? (text : List Char) : Option UInt8 :=
  if text.length > 3 ∨ (text.length > 1 ∧ text.head? = some '0') then none
  else (digits? 10 text).bind fun n => if n < 256 then some (UInt8.ofNat n) else none

/-- Four bytes in decimal, separated by points. -/
def v4? (text : List Char) : Option IpAddress :=
  match (text.splitOn '.').mapM octet? with
  | some [a, b, c, d] => some (.v4 a b c d)
  | _ => none

def segment? (text : List Char) : Option (List UInt16) :=
  if text.length > 4 then none else (digits? 16 text).map fun n => [UInt16.ofNat n]

/-- Segments separated by colons; the last piece may be a version four address. -/
def segments? : List (List Char) → Option (List UInt16)
  | [] => some []
  | [last] =>
    match v4? last with
    | some (.v4 a b c d) =>
      some [a.toUInt16 * 256 + b.toUInt16, c.toUInt16 * 256 + d.toUInt16]
    | _ => segment? last
  | piece :: rest => do return (← segment? piece) ++ (← segments? rest)

def segmentsOf? (text : List Char) : Option (List UInt16) :=
  if text.isEmpty then some [] else segments? (text.splitOn ':')

/-- The texts before and after the first pair of colons. -/
def splitGap : List Char → Option (List Char × List Char)
  | ':' :: ':' :: rest => some ([], rest)
  | c :: rest => (splitGap rest).map fun (before, after) => (c :: before, after)
  | [] => none

def v6? (text : List Char) : Option (List UInt16) :=
  match splitGap text with
  | none => (segmentsOf? text).bind fun s => if s.length = 8 then some s else none
  | some (before, after) => do
    let left ← segmentsOf? before
    let right ← segmentsOf? after
    if left.length + right.length < 8 then
      some (left ++ List.replicate (8 - left.length - right.length) 0 ++ right)
    else none

/-- The start and the length of the first longest run of zeros. -/
def longestGap (segments : List UInt16) : Nat × Nat :=
  (List.range segments.length).foldl (fun best i =>
    let run := ((segments.drop i).takeWhile (· == 0)).length
    if run > best.2 then (i, run) else best) (0, 0)

def hex (n : UInt16) : String := String.ofList (Nat.toDigits 16 n.toNat)

def joined (segments : List UInt16) : String := ":".intercalate (segments.map hex)

def text : IpAddress → String
  | .v4 a b c d => s!"{a}.{b}.{c}.{d}"
  | .v6 segments _ =>
    match segments with
    | [0, 0, 0, 0, 0, 0xffff, hi, lo] =>
      s!"::ffff:{hi >>> 8}.{hi &&& 255}.{lo >>> 8}.{lo &&& 255}"
    | _ =>
      let (start, length) := longestGap segments
      if length > 1 then
        s!"{joined (segments.take start)}::{joined (segments.drop (start + length))}"
      else joined segments

end IpAddress

namespace SocketAddress

def text (a : SocketAddress) : String :=
  match a.ip with
  | .v4 .. => s!"{a.ip.text}:{a.port.toNat}"
  | .v6 _ 0 => s!"[{a.ip.text}]:{a.port.toNat}"
  | .v6 _ zone => s!"[{a.ip.text}%{zone}]:{a.port.toNat}"

def port? (text : List Char) : Option Port :=
  (IpAddress.digits? 10 text).bind fun n => if n < UInt16.size then some (UInt16.ofNat n) else none

/-- The texts around the first occurrence of a character. -/
def cut (c : Char) (text : List Char) : Option (List Char × List Char) :=
  if c ∈ text then some (text.takeWhile (· ≠ c), (text.dropWhile (· ≠ c)).drop 1) else none

def parse? (text : String) : Option SocketAddress :=
  match text.toList with
  | '[' :: rest => do
    let (inside, after) ← cut ']' rest
    let (host, zone) := (cut '%' inside).getD (inside, ['0'])
    let ip ← IpAddress.v6? host
    match after with
    | ':' :: port => some ⟨.v6 ip (← IpAddress.digits? 10 zone), ← port? port⟩
    | _ => none
  | chars => do
    let (host, port) ← cut ':' chars
    some ⟨← IpAddress.v4? host, ← port? port⟩

end SocketAddress
end RaceControl
