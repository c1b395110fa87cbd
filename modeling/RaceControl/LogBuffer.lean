import RaceControl.OsError
import RaceControl.Text.Utf8

/-!
The console output of the server as a bounded run of bytes. A write first cuts what is stored down
to the newest `maxSize` bytes and then appends in full, so that no write is ever cut itself.
-/
namespace RaceControl

structure LogBuffer where
  maxSize : Nat
  bytes : List UInt8
  deriving DecidableEq, Repr, Inhabited

namespace LogBuffer

def empty (maxSize : Nat) : LogBuffer := ⟨maxSize, []⟩

def size (b : LogBuffer) : Nat := b.bytes.length

def isEmpty (b : LogBuffer) : Bool := b.bytes.isEmpty

/-- What is left of the stored bytes once the oldest beyond the limit are dropped. -/
def kept (b : LogBuffer) : List UInt8 := b.bytes.drop (b.bytes.length - b.maxSize)

def append (b : LogBuffer) (data : List UInt8) : LogBuffer := { b with bytes := b.kept ++ data }

/-- Appends the data and reports how many bytes were written. -/
def write (b : LogBuffer) (data : List UInt8) : Nat × LogBuffer := (data.length, b.append data)

/-- Takes bytes as any sink does, which may fail and may take fewer than it is given. -/
def accept (b : LogBuffer) (data : List UInt8) : Except OsError Nat × LogBuffer :=
  let (written, b) := b.write data
  (.ok written, b)

/-- The stored bytes as text. -/
def text (b : LogBuffer) : String := String.ofList (Utf8.decodeLossy b.bytes)

end LogBuffer
end RaceControl
