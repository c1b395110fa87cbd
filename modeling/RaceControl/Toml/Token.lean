/-!
The tokens of a TOML text. Line ends are one character each before the text is cut, so that a
carriage return counts only in front of a line feed.
-/
namespace RaceControl.Toml

inductive Token
  | newline
  | blanks (text : List Char)
  | comment
  | equals
  | period
  | comma
  | colon
  | plus
  | openBrace
  | closeBrace
  | openBracket
  | closeBracket
  /-- Letters, digits, hyphens and underscores: a bare key or the start of a value. -/
  | word (text : List Char)
  | quoted (text : List Char) (multiline : Bool)
  deriving DecidableEq, Repr, Inhabited

namespace Token

/-- The text of the tokens that a date may consist of. -/
def dateText : Token → List Char
  | .blanks text => text
  | .period => ['.']
  | .colon => [':']
  | .plus => ['+']
  | .word text => text
  | _ => []

def foldLineEnds : List Char → List Char
  | '\r' :: '\n' :: rest => '\n' :: foldLineEnds rest
  | c :: rest => c :: foldLineEnds rest
  | [] => []

def isBlank (c : Char) : Bool := c == ' ' || c == '\t'

def isWordChar (c : Char) : Bool := c.isAlphanum || c == '-' || c == '_'

/-- Comments hold anything but control characters other than a tab. -/
def isCommentChar (c : Char) : Bool := c == '\t' || 0x20 ≤ c.toNat

def isQuotedChar (c : Char) : Bool := isCommentChar c && c.toNat != 0x7f

def hexValue? (c : Char) : Option Nat :=
  if c.isDigit then some (c.toNat - '0'.toNat)
  else if 'a' ≤ c ∧ c ≤ 'f' then some (c.toNat - 'a'.toNat + 10)
  else if 'A' ≤ c ∧ c ≤ 'F' then some (c.toNat - 'A'.toNat + 10)
  else none

/-- The character whose number the first `n` hexadecimal digits write, and the text behind them. -/
def hexChar? (n : Nat) (cs : List Char) : Option (Char × List Char) := do
  let digits ← (cs.take n).mapM hexValue?
  let number := digits.foldl (fun m d => m * 16 + d) 0
  if digits.length = n ∧ number.isValidChar then some (Char.ofNat number, cs.drop n) else none

/-- The text behind a backslash that stands at the end of a line: blanks up to the line end, then
blanks and empty lines. -/
def continuation? : List Char → Option (List Char)
  | '\n' :: cs => some (cs.dropWhile fun c => isBlank c || c == '\n')
  | c :: cs => if isBlank c then continuation? cs else none
  | [] => none

/-- What an escape stands for, read behind its backslash, and the text behind it. -/
def escape? (multiline : Bool) : List Char → Option (List Char × List Char)
  | '"' :: cs => some (['"'], cs)
  | '\\' :: cs => some (['\\'], cs)
  | 'b' :: cs => some (['\x08'], cs)
  | 'f' :: cs => some (['\x0c'], cs)
  | 'n' :: cs => some (['\n'], cs)
  | 'r' :: cs => some (['\r'], cs)
  | 't' :: cs => some (['\t'], cs)
  | 'u' :: cs => (hexChar? 4 cs).map fun (c, rest) => ([c], rest)
  | 'U' :: cs => (hexChar? 8 cs).map fun (c, rest) => ([c], rest)
  | cs => if multiline then (continuation? cs).map fun rest => ([], rest) else none

/-- The rest of a text quoted by `quote` on one line. Only double quotes know escapes. -/
def line? (quote : Char) : Nat → List Char → Option (List Char × List Char)
  | 0, _ => none
  | fuel + 1, cs =>
    match cs with
    | [] => none
    | c :: rest =>
      if c = quote then some ([], rest)
      else if c = '\\' ∧ quote = '"' then do
        let (made, rest) ← escape? false rest
        let (more, rest) ← line? quote fuel rest
        return (made ++ more, rest)
      else if isQuotedChar c then do
        let (more, rest) ← line? quote fuel rest
        return (c :: more, rest)
      else none

/-- The rest of a text between threefold quotes. Up to two quotes more at its end belong to it. -/
def lines? (quote : Char) : Nat → List Char → Option (List Char × List Char)
  | 0, _ => none
  | fuel + 1, cs =>
    match cs with
    | [] => none
    | c :: rest =>
      if cs.take 3 = [quote, quote, quote] then
        let extra := ((cs.drop 3).takeWhile (· == quote)).take 2
        some (extra, cs.drop (3 + extra.length))
      else if c = '\\' ∧ quote = '"' then do
        let (made, rest) ← escape? true rest
        let (more, rest) ← lines? quote fuel rest
        return (made ++ more, rest)
      else if c = '\n' ∨ isQuotedChar c then do
        let (more, rest) ← lines? quote fuel rest
        return (c :: more, rest)
      else none

/-- A quoted text behind its first quote. A line end right behind threefold quotes is dropped. -/
def quoted? (quote : Char) (cs : List Char) : Option (Token × List Char) :=
  if cs.take 2 = [quote, quote] then
    let body := match cs.drop 2 with
      | '\n' :: body => body
      | body => body
    (lines? quote (body.length + 1) body).map fun (text, rest) => (.quoted text true, rest)
  else (line? quote (cs.length + 1) cs).map fun (text, rest) => (.quoted text false, rest)

/-- The first token of a text that is not empty, and the text behind it. -/
def next? (c : Char) (rest : List Char) : Option (Token × List Char) :=
  match c with
  | '\n' => some (.newline, rest)
  | '#' => some (.comment, rest.dropWhile isCommentChar)
  | '=' => some (.equals, rest)
  | '.' => some (.period, rest)
  | ',' => some (.comma, rest)
  | ':' => some (.colon, rest)
  | '+' => some (.plus, rest)
  | '\x7b' => some (.openBrace, rest)
  | '\x7d' => some (.closeBrace, rest)
  | '[' => some (.openBracket, rest)
  | ']' => some (.closeBracket, rest)
  | '"' => quoted? '"' rest
  | '\'' => quoted? '\'' rest
  | c =>
    if isBlank c then some (.blanks (c :: rest.takeWhile isBlank), rest.dropWhile isBlank)
    else if isWordChar c then
      some (.word (c :: rest.takeWhile isWordChar), rest.dropWhile isWordChar)
    else none

def scanFrom : Nat → List Char → Option (List Token)
  | _, [] => some []
  | 0, _ => none
  | fuel + 1, c :: rest => do
    let (token, rest) ← next? c rest
    let more ← scanFrom fuel rest
    return token :: more

/-- The tokens of a text. A byte order mark in front is no part of it. -/
def scan (text : String) : Option (List Token) :=
  let cs := match text.toList with
    | '\uFEFF' :: cs => cs
    | cs => cs
  let cs := foldLineEnds cs
  scanFrom cs.length cs

end Token
end RaceControl.Toml
