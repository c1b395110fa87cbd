import RaceControl.Host.Files
import RaceControl.Host.Shell.Output

/-!
Programs that turn the bytes they read into bytes they write.
-/
namespace RaceControl.Host

inductive Filter
  | copy
  /-- Replaces bytes by the ones at the same place of another set, or drops them. -/
  | substitute (source target : List UInt8) (drops : Bool)
  | firstBytes (remaining : Nat)
  | firstLines (remaining : Nat)
  deriving Repr, Inhabited

namespace Filter

/-- The bytes up to the end of so many lines. -/
def takeLines : Nat → List UInt8 → List UInt8
  | 0, _ => []
  | _, [] => []
  | n + 1, b :: bs => b :: if b = 10 then takeLines n bs else takeLines (n + 1) bs

def replace (source target : List UInt8) (b : UInt8) : UInt8 :=
  match source.idxOf? b with
  | some i => (target[i]?).getD (target.getLast?.getD b)
  | none => b

/-- What is written for the next bytes, and the filter for those that follow. -/
def feed (bytes : List UInt8) : Filter → List UInt8 × Filter
  | .copy => (bytes, .copy)
  | .substitute source target true =>
    (bytes.filter fun b => !source.contains b, .substitute source target true)
  | .substitute source target false =>
    (bytes.map (replace source target), .substitute source target false)
  | .firstBytes n => (bytes.take n, .firstBytes (n - bytes.length))
  | .firstLines n => (takeLines n bytes, .firstLines (n - bytes.count 10))

/-- Whether nothing more will be written. -/
def isDone : Filter → Bool
  | .firstBytes 0 => true
  | .firstLines 0 => true
  | _ => false

/-- How many bytes of an endless supply are read. -/
def demand : Filter → Nat
  | .firstBytes n => n
  | _ => 0

/-- The bytes that a set of characters stands for. -/
def set : Nat → List Char → List UInt8
  | 0, _ => []
  | _, [] => []
  | fuel + 1, '\\' :: c :: cs =>
    if Shell.isOctal c then
      let (b, rest) := Shell.octalByte 3 (c :: cs)
      b :: set fuel rest
    else (Shell.simpleEscape? c).getD (UInt8.ofNat c.toNat) :: set fuel cs
  | fuel + 1, a :: '-' :: b :: cs =>
    if a.toNat ≤ b.toNat ∧ b.toNat < 128 then
      (List.range (b.toNat - a.toNat + 1)).map (fun i => UInt8.ofNat (a.toNat + i)) ++ set fuel cs
    else Utf8.encode [a] ++ set fuel ('-' :: b :: cs)
  | fuel + 1, c :: cs => Utf8.encode [c] ++ set fuel cs

def setOf (text : String) : List UInt8 := set (text.length + 1) text.toList

end Filter

/-- Seconds with a fraction and perhaps a unit, in milliseconds, rounded up. -/
def duration? (text : String) : Option Nat :=
  let cs := text.toList
  let whole := cs.takeWhile Char.isDigit
  let rest := cs.drop whole.length
  let (fraction, rest) := match rest with
    | '.' :: rest => (rest.takeWhile Char.isDigit, rest.dropWhile Char.isDigit)
    | rest => ([], rest)
  let unit? := match rest with
    | [] | ['s'] => some 1000
    | ['m'] => some 60000
    | ['h'] => some 3600000
    | ['d'] => some 86400000
    | _ => none
  if whole.isEmpty ∧ fraction.isEmpty then none
  else
    unit?.map fun unit =>
      let digits := ((String.ofList (whole ++ fraction)).toNat?).getD 0
      let scale := Nat.pow 10 fraction.length
      (digits * unit + scale - 1) / scale

/-- What a filter reads. -/
inductive Source
  | input
  | bytes (content : List UInt8)
  | zeros
  deriving Repr, Inhabited

/-- What a program does once it runs. -/
inductive Task
  | sleep (milliseconds : Nat)
  | write (bytes errors : List UInt8) (status : Nat)
  | filter (sources : List Source) (filter : Filter)
  deriving Repr, Inhabited

/-- What the named files hold, or the name of the first one that cannot be read. -/
def sources? (files : Node) (cwd : List String) : List String → Except String (List Source)
  | [] => .ok []
  | name :: names => do
    let more ← sources? files cwd names
    if name = "-" then return .input :: more
    match files.resolve cwd name with
    | .ok (_, .plain content) => return .bytes content :: more
    | .ok (_, .zeros) => return .zeros :: more
    | .ok (_, .null) => return more
    | _ => .error name

def complaint (text : String) : Task := .write [] (Utf8.encode (text ++ "\n").toList) 1

def refusal (tool : String) (name : String) : Task :=
  match tool with
  | "head" => complaint s!"head: cannot open '{name}' for reading: No such file or directory"
  | _ => complaint s!"{tool}: {name}: No such file or directory"

def misuse (tool : String) : Task := complaint s!"{tool}: invalid usage"

/-- How long a program sleeps that is given these durations. -/
def sleepTask (arguments : List String) : Task :=
  let hint := "\nTry 'sleep --help' for more information."
  match arguments.find? fun a => (duration? a).isNone with
  | some a => complaint (s!"sleep: invalid time interval '{a}'" ++ hint)
  | none =>
    if arguments.isEmpty then complaint ("sleep: missing operand" ++ hint)
    else .sleep ((arguments.filterMap duration?).foldl (· + ·) 0)

def reading (files : Node) (cwd : List String) (tool : String) (filter : Filter)
    (names : List String) : Task :=
  if names.isEmpty then .filter [.input] filter
  else
    match sources? files cwd names with
    | .ok sources => .filter sources filter
    | .error name => refusal tool name

/-- The first lines or bytes of what is read. The number may follow its option directly, and a
number alone counts lines. -/
def headTask (files : Node) (cwd : List String) (arguments : List String) : Task :=
  let counted (make : Nat → Filter) (n : List Char) (names : List String) : Task :=
    match (String.ofList n).toNat? with
    | some n => reading files cwd "head" (make n) names
    | none => misuse "head"
  match arguments with
  | "-c" :: n :: names => counted .firstBytes n.toList names
  | "-n" :: n :: names => counted .firstLines n.toList names
  | first :: names =>
    match first.toList with
    | '-' :: 'c' :: n => counted .firstBytes n names
    | '-' :: 'n' :: n => counted .firstLines n names
    | '-' :: c :: n => counted .firstLines (c :: n) names
    | _ => reading files cwd "head" (.firstLines 10) arguments
  | [] => reading files cwd "head" (.firstLines 10) []

/-- The task of a tool other than the shell. -/
def Tool.task (files : Node) (cwd : List String) (arguments : List String) : Tool → Task
  | .sh => misuse "sh"
  | .sleep => sleepTask arguments
  | .echo => .write (Shell.plainEcho false false arguments) [] 0
  | .printf => .write (Shell.printf arguments) [] 0
  | .cat => reading files cwd "cat" .copy arguments
  | .head => headTask files cwd arguments
  | .tr =>
    match arguments with
    | ["-d", a] => .filter [.input] (.substitute (Filter.setOf a) [] true)
    | [a, b] => .filter [.input] (.substitute (Filter.setOf a) (Filter.setOf b) false)
    | _ => misuse "tr"
  | .pwd => .write (Utf8.encode (placeText cwd ++ "\n").toList) [] 0
  | .succeed => .write [] [] 0
  | .fail => .write [] [] 1

end RaceControl.Host
