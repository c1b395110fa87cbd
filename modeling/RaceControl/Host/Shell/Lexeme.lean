import RaceControl.Host.Shell.Syntax

/-!
The lexemes of a shell script.
-/
namespace RaceControl.Host.Shell

inductive Lexeme
  | word (word : Word)
  | operator (text : String)
  /-- The mark of a redirection, with the descriptor in front of it. -/
  | redirect (descriptor : Nat) (isInput isCopy : Bool)
  deriving Repr, Inhabited

namespace Lexeme

def isNameStart (c : Char) : Bool := c.isAlpha || c == '_'

def isNameChar (c : Char) : Bool := c.isAlphanum || c == '_'

def isSpecial (c : Char) : Bool := "?#@*$!-".toList.contains c

def isBreak (c : Char) : Bool := " \t\n;&|<>()".toList.contains c

/-- The name of a parameter in front of a text. -/
def parameterName? : List Char → Option (String × List Char)
  | c :: rest =>
    if isNameStart c then
      some (String.ofList (c :: rest.takeWhile isNameChar), rest.dropWhile isNameChar)
    else if c.isDigit ∨ isSpecial c then some (String.singleton c, rest)
    else none
  | [] => none

/-- The name inside braces, where a position may have several digits. -/
def bracedName? (cs : List Char) : Option (String × List Char) :=
  match cs with
  | c :: _ =>
    if c.isDigit then some (String.ofList (cs.takeWhile Char.isDigit), cs.dropWhile Char.isDigit)
    else parameterName? cs
  | [] => none

def choiceOf? : List Char → Option (Choice × Bool × List Char)
  | ':' :: '-' :: cs => some (.orElse, true, cs)
  | '-' :: cs => some (.orElse, false, cs)
  | ':' :: '=' :: cs => some (.orAssign, true, cs)
  | '=' :: cs => some (.orAssign, false, cs)
  | ':' :: '+' :: cs => some (.instead, true, cs)
  | '+' :: cs => some (.instead, false, cs)
  | _ => none

/-- The text up to the parentheses that close an arithmetic expansion. -/
def arithmeticText? : Nat → List Char → Option (List Char × List Char)
  | 0, ')' :: ')' :: rest => some ([], rest)
  | depth, '(' :: cs => (arithmeticText? (depth + 1) cs).map fun (t, rest) => ('(' :: t, rest)
  | depth + 1, ')' :: cs => (arithmeticText? depth cs).map fun (t, rest) => (')' :: t, rest)
  | depth, c :: cs => (arithmeticText? depth cs).map fun (t, rest) => (c :: t, rest)
  | _, [] => none

/-- The end of a parameter's value that a pattern is to describe, and whether as much as possible of
it. -/
def trimOf? : List Char → Option (Bool × Bool × List Char)
  | '%' :: '%' :: cs => some (true, true, cs)
  | '%' :: cs => some (true, false, cs)
  | '#' :: '#' :: cs => some (false, true, cs)
  | '#' :: cs => some (false, false, cs)
  | _ => none

/-- The script up to the parenthesis that closes it. Inside quotes parentheses do not count. -/
def enclosed? : Nat → Option Char → List Char → Option (List Char × List Char)
  | 0, none, ')' :: rest => some ([], rest)
  | depth, quote, '\\' :: c :: cs =>
    if quote = some '\'' then
      (enclosed? depth quote (c :: cs)).map fun (t, rest) => ('\\' :: t, rest)
    else (enclosed? depth quote cs).map fun (t, rest) => ('\\' :: c :: t, rest)
  | depth, none, c :: cs =>
    let depth := if c = '(' then depth + 1 else if c = ')' then depth - 1 else depth
    let quote := if c = '\'' ∨ c = '"' then some c else none
    (enclosed? depth quote cs).map fun (t, rest) => (c :: t, rest)
  | depth, some q, c :: cs =>
    (enclosed? depth (if c = q then none else some q) cs).map fun (t, rest) => (c :: t, rest)
  | _, _, [] => none

/-- The script up to the closing backquote, and the text behind it. -/
def backquoted? : List Char → Option (List Char × List Char)
  | '\x60' :: rest => some ([], rest)
  | '\\' :: c :: cs =>
    (backquoted? cs).map fun (t, rest) =>
      (if c = '\x60' ∨ c = '\\' ∨ c = '$' then c :: t else '\\' :: c :: t, rest)
  | c :: cs => (backquoted? cs).map fun (t, rest) => (c :: t, rest)
  | [] => none

/-- How a word is read: outside quotes, inside double quotes, or inside braces of either. -/
structure Context where
  isQuoted : Bool
  inBraces : Bool

/-- The pieces of a word, and the text behind them. Outside quotes a word ends at a break, inside
at the closing quote, in braces at the closing brace; what ends it is left in the text. -/
def pieces? : Nat → Context → List Char → Option (Word × List Char)
  | 0, _, _ => none
  | _, _, [] => some ([], [])
  | fuel + 1, ctx, c :: cs =>
    let more (piece : Piece) (rest : List Char) : Option (Word × List Char) :=
      (pieces? fuel ctx rest).map fun (w, rest) => (piece :: w, rest)
    if ctx.inBraces ∧ c = '\x7d' then some ([], c :: cs)
    else if c = '"' then
      if ctx.isQuoted ∧ ¬ctx.inBraces then some ([], c :: cs)
      else
        match pieces? fuel ⟨true, false⟩ cs with
        | some (inner, '"' :: rest) =>
          (pieces? fuel ctx rest).map fun (w, rest) => (.text [] true :: inner ++ w, rest)
        | _ => none
    else if c = '\'' ∧ ¬ctx.isQuoted then
      let body := cs.takeWhile (· != '\'')
      match cs.drop body.length with
      | _ :: rest => more (.text body true) rest
      | [] => none
    else if c = '\\' then
      match cs with
      | '\n' :: rest => pieces? fuel ctx rest
      | d :: rest =>
        if ctx.isQuoted ∧ ¬"$\x60\"\\".toList.contains d then more (.text [c, d] true) rest
        else more (.text [d] true) rest
      | [] => some ([.text ['\\'] true], [])
    else if c = '$' then
      match cs with
      | '(' :: '(' :: rest =>
        match arithmeticText? 0 rest with
        | some (text, rest) =>
          match pieces? fuel ⟨true, true⟩ text with
          | some (expression, []) => more (.arithmetic expression) rest
          | _ => none
        | none => none
      | '(' :: rest =>
        match ctx.inBraces, enclosed? 0 none rest with
        | false, some (script, rest) =>
          more (.substitution (String.ofList script) ctx.isQuoted) rest
        | _, _ => none
      | '\x7b' :: '#' :: rest =>
        match bracedName? rest with
        | some (name, '\x7d' :: rest) => more (.length name) rest
        | _ => none
      | '\x7b' :: rest =>
        match bracedName? rest with
        | some (name, '\x7d' :: rest) => more (.parameter name ctx.isQuoted) rest
        | some (name, rest) =>
          match choiceOf? rest with
          | some (kind, emptyCounts, rest) =>
            match pieces? fuel { ctx with inBraces := true } rest with
            | some (w, '\x7d' :: rest) => more (.choice name kind emptyCounts w ctx.isQuoted) rest
            | _ => none
          | none =>
            match trimOf? rest with
            | some (atEnd, longest, rest) =>
              match pieces? fuel ⟨false, true⟩ rest with
              | some (w, '\x7d' :: rest) => more (.trim name atEnd longest w ctx.isQuoted) rest
              | _ => none
            | none => none
        | none => none
      | cs =>
        match parameterName? cs with
        | some (name, rest) => more (.parameter name ctx.isQuoted) rest
        | none => more (.text ['$'] ctx.isQuoted) cs
    else if c = '\x60' then
      match ctx.inBraces, backquoted? cs with
      | false, some (script, rest) => more (.substitution (String.ofList script) ctx.isQuoted) rest
      | _, _ => none
    else if ¬ctx.isQuoted ∧ ¬ctx.inBraces ∧ isBreak c then some ([], c :: cs)
    else more (.text [c] ctx.isQuoted) cs

/-- Joins neighbouring texts of one kind. -/
def joined : Word → Word
  | .text a p :: .text b q :: rest =>
    if p = q then
      match joined (.text b q :: rest) with
      | .text b q :: rest => .text (a ++ b) q :: rest
      | rest => .text a p :: rest
    else .text a p :: joined (.text b q :: rest)
  | piece :: rest => piece :: joined rest
  | [] => []

def operators : List String := [";;", "&&", "||", ";", "&", "|", "(", ")", "\n"]

/-- A redirection in front of a text, behind the digits of its descriptor. -/
def redirect? (digits : List Char) : List Char → Option (Lexeme × List Char)
  | '>' :: rest =>
    let descriptor := ((String.ofList digits).toNat?).getD 1
    match rest with
    | '&' :: rest => some (.redirect descriptor false true, rest)
    | '>' :: rest => some (.redirect descriptor false false, rest)
    | rest => some (.redirect descriptor false false, rest)
  | '<' :: rest =>
    let descriptor := ((String.ofList digits).toNat?).getD 0
    match rest with
    | '&' :: rest => some (.redirect descriptor true true, rest)
    | rest => some (.redirect descriptor true false, rest)
  | _ => none

def scan? : Nat → List Char → Option (List Lexeme)
  | _, [] => some []
  | 0, _ => none
  | fuel + 1, c :: cs =>
    if c = ' ' ∨ c = '\t' then scan? fuel cs
    else if c = '\\' ∧ cs.head? = some '\n' then scan? fuel (cs.drop 1)
    else if c = '#' then scan? fuel (cs.dropWhile (· != '\n'))
    else
      let digits := (c :: cs).takeWhile Char.isDigit
      match redirect? digits ((c :: cs).drop digits.length) with
      | some (lexeme, rest) => (scan? fuel rest).map (lexeme :: ·)
      | none =>
        match operators.find? fun op => op.toList.isPrefixOf (c :: cs) with
        | some op => (scan? fuel ((c :: cs).drop op.length)).map (.operator op :: ·)
        | none =>
          match pieces? (cs.length + 2) ⟨false, false⟩ (c :: cs) with
          | some (w, rest) =>
            if rest.length ≤ cs.length then (scan? fuel rest).map (.word (joined w) :: ·) else none
          | none => none

end Lexeme
end RaceControl.Host.Shell
