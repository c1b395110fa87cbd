import RaceControl.OsError
import RaceControl.ProcessSpec

/-!
The files of a small machine, and how a path is followed through them. Links are followed
everywhere; a name behind anything but a directory is refused.
-/
namespace RaceControl.Host

/-- The programs that the machine has. -/
inductive Tool
  | sh
  | sleep
  | echo
  | printf
  | cat
  | head
  | tr
  | pwd
  | succeed
  | fail
  deriving DecidableEq, Repr, Inhabited

inductive Node
  | directory (entries : List (String × Node))
  | program (tool : Tool)
  | plain (content : List UInt8)
  | null
  /-- An endless supply of zeros. -/
  | zeros
  | link (target : List String)
  deriving Repr, Inhabited

namespace Node

def isDirectory : Node → Bool
  | .directory _ => true
  | _ => false

def entry? (name : String) : Node → Option Node
  | .directory entries => entries.lookup name
  | _ => none

/-- The node at a place, without following links. -/
def at? (root : Node) : List String → Option Node
  | [] => some root
  | name :: names => (root.entry? name).bind fun node => node.at? names

/-- Puts a node at a place, with the directories above it. -/
def put (node : Node) : List String → Node → Node
  | [], _ => node
  | name :: names, root =>
    let entries := match root with
      | .directory entries => entries
      | _ => []
    let inner := (entries.lookup name).getD (.directory [])
    .directory ((name, put node names inner) :: entries.filter (·.1 != name))

/-- The longest name that an entry can have, in bytes. -/
def nameLimit : Nat := 255

/-- Follows names from a place. Ends with the place that is reached, free of links. -/
def follow (root : Node) : Nat → List String → List String → Except OsError (List String × Node)
  | 0, _, _ => .error .tooManyLinks
  | fuel + 1, place, names =>
    match root.at? place with
    | none => .error .noEntry
    | some node =>
      match names with
      | [] => .ok (place, node)
      | name :: rest =>
        if ¬node.isDirectory then .error .notDirectory
        else if name = "" ∨ name = "." then root.follow fuel place rest
        else if name = ".." then root.follow fuel place.dropLast rest
        else if name.utf8ByteSize > nameLimit then .error .nameTooLong
        else
          match node.entry? name with
          | none => .error .noEntry
          | some (.link target) => root.follow fuel [] (target ++ rest)
          | some _ => root.follow fuel (place ++ [name]) rest

/-- What a path leads to from a working directory. -/
def resolve (root : Node) (cwd : List String) (path : Path) :
    Except OsError (List String × Node) :=
  if path.isEmpty then .error .noEntry
  else
    let names := (path.chars.splitOn '/').map String.ofList
    root.follow (names.length + 64) (if path.isAbsolute then [] else cwd) names

/-- The tool that a path runs from a working directory. -/
def tool (root : Node) (cwd : List String) (path : Path) : Except OsError Tool := do
  match ← root.resolve cwd path with
  | (_, .program tool) => .ok tool
  | _ => .error .permissionDenied

end Node

/-- The text of a place. -/
def placeText (place : List String) : String := "/" ++ "/".intercalate place

def tools : List (String × Tool) :=
  [("sh", .sh), ("dash", .sh), ("sleep", .sleep), ("echo", .echo), ("printf", .printf),
   ("cat", .cat), ("head", .head), ("tr", .tr), ("pwd", .pwd), ("true", .succeed),
   ("false", .fail)]

/-- The files of a machine that nothing has been added to. -/
def standardFiles : Node :=
  .directory
    [("bin", .link ["usr", "bin"]), ("sbin", .link ["usr", "sbin"]), ("lib", .link ["usr", "lib"]),
     ("tmp", .directory []), ("root", .directory []), ("home", .directory []),
     ("opt", .directory []), ("srv", .directory []), ("mnt", .directory []),
     ("media", .directory []), ("boot", .directory []), ("run", .directory []),
     ("proc", .directory []), ("sys", .directory []),
     ("var", .directory [("tmp", .directory []), ("log", .directory []), ("lib", .directory [])]),
     ("dev", .directory [("null", .null), ("zero", .zeros)]),
     ("etc", .directory
       [("passwd", .plain []), ("group", .plain []), ("hosts", .plain []),
        ("hostname", .plain [])]),
     ("usr", .directory
       [("bin", .directory (tools.map fun (name, tool) => (name, .program tool))),
        ("sbin", .directory []), ("lib", .directory []), ("share", .directory []),
        ("include", .directory []), ("src", .directory []), ("games", .directory []),
        ("local", .directory [("bin", .directory []), ("lib", .directory [])])])]

/-- Where a program named without a separator is looked for. -/
def searchPath : List String :=
  ["/usr/local/sbin", "/usr/local/bin", "/usr/sbin", "/usr/bin", "/sbin", "/bin"]

/-- The tool that a command name runs: a path stands for itself, a bare name is searched for. -/
def findTool (root : Node) (cwd : List String) (directories : List String) (name : Path) :
    Except OsError Tool :=
  if name.isEmpty then .error .noEntry
  else if name.chars.contains '/' then root.tool cwd name
  else
    let attempts := directories.map fun (dir : String) =>
      root.tool cwd ((Path.ofString dir).join name)
    match attempts.findSome? (fun | .ok tool => some tool | .error _ => none) with
    | some tool => .ok tool
    | none =>
      if attempts.any (fun | .error .permissionDenied => true | _ => false) then
        .error .permissionDenied
      else .error .noEntry

end RaceControl.Host
