import RaceControl.Host.Shell.Lexeme

/-!
Reading shell scripts. Reserved words count only where a command can begin.
-/
namespace RaceControl.Host.Shell

/-- The text of a word that has neither quotes nor expansions in it. -/
def bareText? : Word → Option String
  | [.text chars false] => some (String.ofList chars)
  | _ => none

/-- An assignment in front of a command: a name and an equals sign, unquoted. -/
def assignment? : Word → Option (String × Word)
  | .text chars false :: rest =>
    let name := chars.takeWhile Lexeme.isNameChar
    match chars.drop name.length with
    | '=' :: value =>
      if (name.head?.map Lexeme.isNameStart).getD false then
        some (String.ofList name, if value.isEmpty then rest else .text value false :: rest)
      else none
    | _ => none
  | _ => none

/-- Words that close or continue a compound command. -/
def closers : List String := ["then", "else", "elif", "fi", "do", "done", "esac", ";;", "\x7d"]

def reserved? : List Lexeme → Option String
  | .word w :: _ => bareText? w
  | .operator op :: _ => some op
  | _ => none

def skipNewlines : List Lexeme → List Lexeme
  | .operator "\n" :: ls => skipNewlines ls
  | ls => ls

/-- The lexemes behind a fixed word. -/
def expect? (text : String) (ls : List Lexeme) : Option (List Lexeme) :=
  let ls := skipNewlines ls
  if reserved? ls = some text then some (ls.drop 1) else none

def redirection? : List Lexeme → Option (Redirect × List Lexeme)
  | .redirect descriptor isInput isCopy :: .word w :: ls =>
    if isCopy ∧ bareText? w = some "-" then some (⟨descriptor, isInput, .closed⟩, ls)
    else if isCopy then
      ((bareText? w).bind String.toNat?).map fun source => (⟨descriptor, isInput, .copy source⟩, ls)
    else some (⟨descriptor, isInput, .file w⟩, ls)
  | _ => none

def redirections? : Nat → List Lexeme → Option (List Redirect × List Lexeme)
  | 0, _ => none
  | fuel + 1, ls =>
    match ls with
    | .redirect .. :: _ => do
      let (first, ls) ← redirection? ls
      let (more, ls) ← redirections? fuel ls
      return (first :: more, ls)
    | ls => some ([], ls)

/-- A simple command: assignments, words and redirections up to an operator. -/
def simple? : Nat → List (String × Word) → List Word → List Redirect → List Lexeme →
    Option (Command × List Lexeme)
  | 0, _, _, _, _ => none
  | fuel + 1, assignments, words, redirects, ls =>
    match ls with
    | .redirect .. :: _ => do
      let (r, ls) ← redirection? ls
      simple? fuel assignments words (redirects ++ [r]) ls
    | .word w :: ls =>
      match assignment? w, words with
      | some a, [] => simple? fuel (assignments ++ [a]) words redirects ls
      | _, _ => simple? fuel assignments (words ++ [w]) redirects ls
    | ls =>
      if assignments.isEmpty ∧ words.isEmpty ∧ redirects.isEmpty then none
      else some (.simple assignments words redirects, ls)

/-- The words behind `in`, up to the end of the line. -/
def listedWords : List Lexeme → List Word × List Lexeme
  | .word w :: ls =>
    let (ws, ls) := listedWords ls
    (w :: ws, ls)
  | ls => ([], ls)

/-- The patterns of an arm, up to the parenthesis that closes them. -/
def patterns? : List Lexeme → Option (List Word × List Lexeme)
  | .word w :: .operator "|" :: ls => (patterns? ls).map fun (ws, ls) => (w :: ws, ls)
  | .word w :: .operator ")" :: ls => some ([w], ls)
  | _ => none

mutual

/-- Commands up to the end, a closing parenthesis or a closing word. -/
def list? : Nat → List Lexeme → Option (Command × List Lexeme)
  | 0, _ => none
  | fuel + 1, ls =>
    let ls := skipNewlines ls
    match reserved? ls with
    | none => if ls.isEmpty then some (.nothing, []) else chain? fuel ls
    | some text =>
      if text = ")" ∨ text ∈ closers then some (.nothing, ls) else chain? fuel ls

/-- One or more commands, each ended by a separator. -/
def chain? : Nat → List Lexeme → Option (Command × List Lexeme)
  | 0, _ => none
  | fuel + 1, ls => do
    let (first, ls) ← andOr? fuel ls
    match ls with
    | .operator ";" :: ls | .operator "\n" :: ls => do
      let (rest, ls) ← list? fuel ls
      return (.sequence first rest, ls)
    | .operator "&" :: ls => do
      let (rest, ls) ← list? fuel ls
      return (.sequence (.background first) rest, ls)
    | ls => return (first, ls)

def andOr? : Nat → List Lexeme → Option (Command × List Lexeme)
  | 0, _ => none
  | fuel + 1, ls => do
    let (first, ls) ← pipeline? fuel ls
    andOrRest? fuel first ls

def andOrRest? : Nat → Command → List Lexeme → Option (Command × List Lexeme)
  | 0, _, _ => none
  | fuel + 1, first, ls =>
    match ls with
    | .operator "&&" :: ls => do
      let (second, ls) ← pipeline? fuel (skipNewlines ls)
      andOrRest? fuel (.both first second) ls
    | .operator "||" :: ls => do
      let (second, ls) ← pipeline? fuel (skipNewlines ls)
      andOrRest? fuel (.either first second) ls
    | ls => some (first, ls)

def pipeline? : Nat → List Lexeme → Option (Command × List Lexeme)
  | 0, _ => none
  | fuel + 1, ls =>
    if reserved? ls = some "!" then
      (pipeline? fuel (ls.drop 1)).map fun (c, ls) => (.negated c, ls)
    else do
      let (stages, ls) ← stages? fuel ls
      match stages with
      | [only] => return (only, ls)
      | stages => return (.pipeline stages, ls)

def stages? : Nat → List Lexeme → Option (List Command × List Lexeme)
  | 0, _ => none
  | fuel + 1, ls => do
    let (first, ls) ← command? fuel ls
    match ls with
    | .operator "|" :: ls => do
      let (more, ls) ← stages? fuel (skipNewlines ls)
      return (first :: more, ls)
    | ls => return ([first], ls)

def command? : Nat → List Lexeme → Option (Command × List Lexeme)
  | 0, _ => none
  | fuel + 1, ls =>
    match reserved? ls with
    | some "while" => loop? fuel false (ls.drop 1)
    | some "until" => loop? fuel true (ls.drop 1)
    | some "if" => branch? fuel (ls.drop 1)
    | some "for" => each? fuel (ls.drop 1)
    | some "case" => do
      match ls with
      | _ :: .word subject :: ls => do
        let (arms, ls) ← arms? fuel (← expect? "in" ls)
        let (redirects, ls) ← redirections? fuel ls
        return (.grouped (.select subject arms) redirects, ls)
      | _ => none
    | some "(" => do
      let (inner, ls) ← list? fuel (ls.drop 1)
      let (redirects, ls) ← redirections? fuel (← expect? ")" ls)
      return (.subshell inner redirects, ls)
    | some "\x7b" => do
      let (inner, ls) ← list? fuel (ls.drop 1)
      let (redirects, ls) ← redirections? fuel (← expect? "\x7d" ls)
      return (.grouped inner redirects, ls)
    | _ => simple? fuel [] [] [] ls

def loop? : Nat → Bool → List Lexeme → Option (Command × List Lexeme)
  | 0, _, _ => none
  | fuel + 1, isUntil, ls => do
    let (condition, ls) ← list? fuel ls
    let (body, ls) ← list? fuel (← expect? "do" ls)
    let (redirects, ls) ← redirections? fuel (← expect? "done" ls)
    return (.grouped (.repeated isUntil condition body) redirects, ls)

def branch? : Nat → List Lexeme → Option (Command × List Lexeme)
  | 0, _ => none
  | fuel + 1, ls => do
    let (condition, ls) ← list? fuel ls
    let (yes, ls) ← list? fuel (← expect? "then" ls)
    match reserved? (skipNewlines ls) with
    | some "elif" => do
      let (no, ls) ← branch? fuel ((skipNewlines ls).drop 1)
      return (.branch condition yes no, ls)
    | some "else" => do
      let (no, ls) ← list? fuel ((skipNewlines ls).drop 1)
      let (redirects, ls) ← redirections? fuel (← expect? "fi" ls)
      return (.grouped (.branch condition yes no) redirects, ls)
    | _ => do
      let (redirects, ls) ← redirections? fuel (← expect? "fi" ls)
      return (.grouped (.branch condition yes .nothing) redirects, ls)

/-- The arms of a selection, up to its end. The last one need not be closed. -/
def arms? : Nat → List Lexeme → Option (List (List Word × Command) × List Lexeme)
  | 0, _ => none
  | fuel + 1, ls =>
    let ls := skipNewlines ls
    if reserved? ls = some "esac" then some ([], ls.drop 1)
    else do
      let ls := match ls with
        | .operator "(" :: ls => ls
        | ls => ls
      let (patterns, ls) ← patterns? ls
      let (body, ls) ← list? fuel ls
      match ls with
      | .operator ";;" :: ls => do
        let (arms, ls) ← arms? fuel ls
        return ((patterns, body) :: arms, ls)
      | ls => return ([(patterns, body)], ← expect? "esac" ls)

def each? : Nat → List Lexeme → Option (Command × List Lexeme)
  | 0, _ => none
  | fuel + 1, ls =>
    match ls with
    | .word w :: ls => do
      let name ← bareText? w
      let (words, ls) :=
        match expect? "in" ls with
        | some ls =>
          let (ws, ls) := listedWords ls
          (some ws, ls)
        | none => (none, ls)
      let ls := match ls with
        | .operator ";" :: ls => ls
        | ls => ls
      let (body, ls) ← list? fuel (← expect? "do" ls)
      let (redirects, ls) ← redirections? fuel (← expect? "done" ls)
      return (.grouped (.each name words body) redirects, ls)
    | _ => none

end

/-- The command that a script writes. -/
def parse? (script : String) : Option Command := do
  let chars := script.toList
  let lexemes ← Lexeme.scan? (chars.length + 1) chars
  match ← list? (8 * lexemes.length + 16) lexemes with
  | (command, []) => some command
  | _ => none

end RaceControl.Host.Shell
