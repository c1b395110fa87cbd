/-!
Failures of the operating system, with the texts they are reported by.
-/
namespace RaceControl

inductive OsError
  | noEntry
  | permissionDenied
  | notDirectory
  | isDirectory
  | tooManyLinks
  | nameTooLong
  | badFormat
  | addressInUse
  | networkUnreachable
  | messageTooLong
  | nulByte
  | invalidUtf8
  | other (text : String)
  deriving DecidableEq, Repr, Inhabited

namespace OsError

/-- The text of a numbered failure. -/
def numbered (text : String) (number : Nat) : String := s!"{text} (os error {number})"

def message : OsError → String
  | .noEntry => numbered "No such file or directory" 2
  | .permissionDenied => numbered "Permission denied" 13
  | .notDirectory => numbered "Not a directory" 20
  | .isDirectory => numbered "Is a directory" 21
  | .tooManyLinks => numbered "Too many levels of symbolic links" 40
  | .nameTooLong => numbered "File name too long" 36
  | .badFormat => numbered "Exec format error" 8
  | .addressInUse => numbered "Address already in use" 98
  | .networkUnreachable => numbered "Network is unreachable" 101
  | .messageTooLong => numbered "Message too long" 90
  | .nulByte => "nul byte found in provided data"
  | .invalidUtf8 => "stream did not contain valid UTF-8"
  | .other text => text

end OsError
end RaceControl
