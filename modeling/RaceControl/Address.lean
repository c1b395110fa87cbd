import RaceControl.Port

/-!
Addresses of the server's plugin protocol, written `host:port`. A host may stand in brackets, and
then may hold colons; an empty host means this machine.
-/
namespace RaceControl

structure Address where
  host : String
  port : Port
  deriving DecidableEq, Repr, Inhabited

/-- Why a text is no address. The first fault in this order is the one reported. -/
inductive AddressFault
  | missingPort
  | unclosedBracket
  | tooManyColons
  | invalidPort
  deriving DecidableEq, Repr

def AddressFault.reason : AddressFault → String
  | .missingPort => "missing port in address"
  | .unclosedBracket => "missing ']' in address"
  | .tooManyColons => "too many colons in address"
  | .invalidPort => "invalid port"

namespace Address

/-- The address of this machine, which an empty host stands for. -/
def localHost : String := "127.0.0.1"

/-- The texts before and after the last occurrence of a character. -/
def splitLast (c : Char) : List Char → Option (List Char × List Char)
  | [] => none
  | a :: text =>
    match splitLast c text with
    | some (before, after) => some (a :: before, after)
    | none => if a = c then some ([], text) else none

/-- The host that the text before the port names: bracketed, or free of colons. -/
def bareHost : List Char → Except AddressFault (List Char)
  | '[' :: inner =>
    match inner.getLast? with
    | some ']' => .ok inner.dropLast
    | _ => .error .unclosedBracket
  | host => if ':' ∈ host then .error .tooManyColons else .ok host

def parse (text : String) : Except AddressFault Address :=
  match splitLast ':' text.toList with
  | none => .error .missingPort
  | some (before, after) => do
    let host ← bareHost before
    match Port.parse? after with
    | none => .error .invalidPort
    | some port => .ok ⟨if host = [] then localHost else String.ofList host, port⟩

/-- The text by which an address is named in messages. Brackets are not restored. -/
def name (a : Address) : String := s!"{a.host}:{a.port.toNat}"

end Address
end RaceControl
