/-!
UTF-8 as bytes: encoding, strict decoding, and decoding that puts one replacement character for
every maximal malformed sequence.
-/
namespace RaceControl.Utf8

def encode (text : List Char) : List UInt8 := text.flatMap String.utf8EncodeChar

/-- What a decoder knows after the first bytes of a character: how many are still to come, the bits
read so far, and the least and greatest value the next byte may have. -/
structure Pending where
  owed : Nat
  bits : Nat
  least : UInt8
  greatest : UInt8
  deriving DecidableEq, Repr

inductive Progress
  | char (c : Char)
  | pending (p : Pending)
  | malformed
  deriving DecidableEq, Repr

/-- The first byte of a character. -/
def first (b : UInt8) : Progress :=
  if b ≤ 0x7f then .char (Char.ofNat b.toNat)
  else if b < 0xc2 then .malformed
  else if b ≤ 0xdf then .pending ⟨1, b.toNat - 0xc0, 0x80, 0xbf⟩
  else if b = 0xe0 then .pending ⟨2, 0, 0xa0, 0xbf⟩
  else if b = 0xed then .pending ⟨2, 0xd, 0x80, 0x9f⟩
  else if b ≤ 0xef then .pending ⟨2, b.toNat - 0xe0, 0x80, 0xbf⟩
  else if b = 0xf0 then .pending ⟨3, 0, 0x90, 0xbf⟩
  else if b ≤ 0xf3 then .pending ⟨3, b.toNat - 0xf0, 0x80, 0xbf⟩
  else if b = 0xf4 then .pending ⟨3, 4, 0x80, 0x8f⟩
  else .malformed

/-- A later byte of a character. -/
def Pending.next (p : Pending) (b : UInt8) : Progress :=
  if p.least ≤ b ∧ b ≤ p.greatest then
    let bits := p.bits * 64 + (b.toNat - 0x80)
    if p.owed ≤ 1 then .char (Char.ofNat bits) else .pending ⟨p.owed - 1, bits, 0x80, 0xbf⟩
  else .malformed

def replacement : Char := '\uFFFD'

/-- A decoder between two bytes: the characters so far, the latest first, and the character that
has begun. -/
structure Decoder where
  chars : List Char
  pending : Option Pending

namespace Decoder

def start : Decoder := ⟨[], none⟩

/-- Takes a byte that begins a character. -/
def begin (chars : List Char) (b : UInt8) : Decoder :=
  match first b with
  | .char c => ⟨c :: chars, none⟩
  | .pending p => ⟨chars, some p⟩
  | .malformed => ⟨replacement :: chars, none⟩

/-- Takes one byte. A byte that cannot continue the character begun ends it and begins another. -/
def push (d : Decoder) (b : UInt8) : Decoder :=
  match d.pending with
  | none => begin d.chars b
  | some p =>
    match p.next b with
    | .char c => ⟨c :: d.chars, none⟩
    | .pending p => ⟨d.chars, some p⟩
    | .malformed => begin (replacement :: d.chars) b

def finish (d : Decoder) : List Char :=
  ((if d.pending.isSome then [replacement] else []) ++ d.chars).reverse

end Decoder

/-- The text of any bytes, with one replacement character for every maximal malformed sequence. -/
def decodeLossy (bytes : List UInt8) : List Char := (bytes.foldl Decoder.push .start).finish

/-- The text of well-formed bytes: the one whose encoding they are. -/
def decode? (bytes : List UInt8) : Option (List Char) :=
  let text := decodeLossy bytes
  if encode text = bytes then some text else none

end RaceControl.Utf8
