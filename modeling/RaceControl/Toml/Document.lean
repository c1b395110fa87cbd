import RaceControl.Toml.Number

/-!
The lines of a TOML document: entries, collected under the header that precedes them.
-/
namespace RaceControl.Toml

/-- A value as it is written. A table made by dotted keys can be extended by further ones; a table
in braces cannot. -/
inductive Value
  | plain (d : Datum)
  | list (items : List Value)
  | braces (entries : List (String × Value))
  | dotted (entries : List (String × Value))
  deriving Inhabited

mutual

def Value.datum : Value → Datum
  | .plain d => d
  | .list items => .list (datums items)
  | .braces entries => .record (members entries)
  | .dotted entries => .record (members entries)

def datums : List Value → List Datum
  | [] => []
  | v :: vs => v.datum :: datums vs

def members : List (String × Value) → List (String × Datum)
  | [] => []
  | (key, v) :: rest => (key, v.datum) :: members rest

end

/-- Adds a value under a dotted key. A key of one part is appended even if it is there already; a
longer one goes into the first entry of its first part, which has to be a table of dotted keys. -/
def insert? (entries : List (String × Value)) : List String → Value → Option (List (String × Value))
  | [], _ => none
  | [key], v => some (entries ++ [(key, v)])
  | key :: keys, v =>
    let (before, rest) := entries.span (·.1 != key)
    match rest with
    | [] => (insert? [] keys v).map fun inner => entries ++ [(key, .dotted inner)]
    | (_, .dotted inner) :: after =>
      (insert? inner keys v).map fun inner => before ++ (key, .dotted inner) :: after
    | _ => none

def skipBlanks : List Token → List Token
  | .blanks _ :: tokens => skipBlanks tokens
  | tokens => tokens

/-- The end of a line, of which a comment may be a part. -/
def lineEnd? (tokens : List Token) : Option (List Token) :=
  match skipBlanks tokens with
  | [] | [.comment] => some []
  | .newline :: tokens => some tokens
  | .comment :: .newline :: tokens => some tokens
  | _ => none

/-- Blanks, comments and empty lines. -/
def skipLines : List Token → List Token
  | .blanks _ :: tokens => skipLines tokens
  | .newline :: tokens => skipLines tokens
  | .comment :: .newline :: tokens => skipLines tokens
  | [.comment] => []
  | tokens => tokens

def keyPart? : List Token → Option (String × List Token)
  | .word cs :: tokens => some (String.ofList cs, tokens)
  | .quoted cs false :: tokens => some (String.ofList cs, tokens)
  | _ => none

/-- The parts of a key, separated by points. -/
def key? : Nat → List Token → Option (List String × List Token)
  | 0, _ => none
  | fuel + 1, tokens => do
    let (part, tokens) ← keyPart? tokens
    match skipBlanks tokens with
    | .period :: tokens => do
      let (parts, tokens) ← key? fuel (skipBlanks tokens)
      return (part :: parts, tokens)
    | tokens => return ([part], tokens)

/-- A value that is neither a list nor a table. -/
def scalar? : List Token → Option (Datum × List Token)
  | .quoted cs _ :: tokens => some (.text (String.ofList cs), tokens)
  | .plus :: .word cs :: tokens => Number.ofWord? cs tokens
  | .word cs :: tokens =>
    match String.ofList cs with
    | "true" => some (.bool true, tokens)
    | "false" => some (.bool false, tokens)
    | "inf" | "nan" => numberOrDate? cs tokens
    | _ =>
      match cs with
      | c :: _ => if c = '-' ∨ c.isDigit then numberOrDate? cs tokens else none
      | [] => none
  | _ => none

mutual

def value? : Nat → List Token → Option (Value × List Token)
  | 0, _ => none
  | fuel + 1, tokens =>
    match tokens with
    | .openBracket :: tokens => (items? fuel tokens).map fun (vs, rest) => (.list vs, rest)
    | .openBrace :: tokens =>
      match skipBlanks tokens with
      | .closeBrace :: rest => some (.braces [], rest)
      | tokens => (pairs? fuel [] tokens).map fun (es, rest) => (.braces es, rest)
    | tokens => (scalar? tokens).map fun (d, rest) => (.plain d, rest)

/-- The items of a list up to its closing bracket, in front of which a comma may stand. -/
def items? : Nat → List Token → Option (List Value × List Token)
  | 0, _ => none
  | fuel + 1, tokens =>
    match skipLines tokens with
    | .closeBracket :: rest => some ([], rest)
    | tokens => do
      let (v, tokens) ← value? fuel tokens
      match skipLines tokens with
      | .comma :: tokens => do
        let (vs, rest) ← items? fuel tokens
        return (v :: vs, rest)
      | .closeBracket :: rest => return ([v], rest)
      | _ => none

/-- The entries of a table in braces up to its closing brace. -/
def pairs? : Nat → List (String × Value) → List Token →
    Option (List (String × Value) × List Token)
  | 0, _, _ => none
  | fuel + 1, entries, tokens => do
    let (key, tokens) ← key? (tokens.length + 1) tokens
    match tokens with
    | .equals :: tokens => do
      let (v, tokens) ← value? fuel (skipBlanks tokens)
      let entries ← insert? entries key v
      match skipBlanks tokens with
      | .closeBrace :: rest => return (entries, rest)
      | .comma :: tokens => pairs? fuel entries (skipBlanks tokens)
      | _ => none
    | _ => none

end

/-- A header with the entries below it. The entries in front of the first header have an empty
path. -/
structure Section where
  path : List String
  /-- Whether the header stands in double brackets and so begins an item of a list. -/
  isItem : Bool
  entries : List (String × Value)
  deriving Inhabited

/-- The header whose opening bracket has been read. -/
def header? (tokens : List Token) : Option (Section × List Token) := do
  let (isItem, tokens) := match tokens with
    | .openBracket :: tokens => (true, tokens)
    | tokens => (false, tokens)
  let (path, tokens) ← key? (tokens.length + 1) (skipBlanks tokens)
  match isItem, tokens with
  | true, .closeBracket :: .closeBracket :: tokens
  | false, .closeBracket :: tokens => return (⟨path, isItem, []⟩, ← lineEnd? tokens)
  | _, _ => none

/-- An entry on a line of its own. -/
def keyValue? (tokens : List Token) : Option (List String × Value × List Token) := do
  let (key, tokens) ← key? (tokens.length + 1) tokens
  match tokens with
  | .equals :: tokens => do
    let (v, tokens) ← value? (2 * tokens.length + 2) (skipBlanks tokens)
    return (key, v, ← lineEnd? tokens)
  | _ => none

/-- The sections from the current one on. -/
def sections? : Nat → Section → List Token → Option (List Section)
  | 0, _, _ => none
  | fuel + 1, current, tokens =>
    match skipLines tokens with
    | [] => some [current]
    | .openBracket :: tokens => do
      let (next, tokens) ← header? tokens
      let more ← sections? fuel next tokens
      return current :: more
    | tokens => do
      let (key, v, tokens) ← keyValue? tokens
      sections? fuel { current with entries := ← insert? current.entries key v } tokens

/-- The sections of a document. The one in front of the first header is there only if it has
entries. -/
def document? (text : String) : Option (List Section) := do
  let tokens ← Token.scan text
  match ← sections? (tokens.length + 1) ⟨[], false, []⟩ tokens with
  | first :: rest => return if first.entries.isEmpty then rest else first :: rest
  | [] => return []

end RaceControl.Toml
