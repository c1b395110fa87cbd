import RaceControl.Text.Utf8

/-!
What `echo` and `printf` write, and how `test` decides.
-/
namespace RaceControl.Host.Shell

def isOctal (c : Char) : Bool := '0' ≤ c && c ≤ '7'

/-- The byte that up to `limit` octal digits name, and the text behind them. -/
def octalByte (limit : Nat) (cs : List Char) : UInt8 × List Char :=
  let ds := (cs.take limit).takeWhile isOctal
  (UInt8.ofNat (ds.foldl (fun n c => n * 8 + (c.toNat - '0'.toNat)) 0), cs.drop ds.length)

def simpleEscape? (c : Char) : Option UInt8 :=
  match c with
  | 'a' => some 7
  | 'b' => some 8
  | 'f' => some 12
  | 'n' => some 10
  | 'r' => some 13
  | 't' => some 9
  | 'v' => some 11
  | '\\' => some 92
  | _ => none

/-- Text with its escapes replaced, as bytes. The flag tells that the text asked to write no more.
Octal numbers begin with a zero. -/
def escapedText : Nat → List Char → List UInt8 × Bool
  | 0, _ => ([], false)
  | _, [] => ([], false)
  | _ + 1, '\\' :: 'c' :: _ => ([], true)
  | fuel + 1, '\\' :: '0' :: cs =>
    let (b, rest) := octalByte 3 cs
    let (more, stop) := escapedText fuel rest
    (b :: more, stop)
  | fuel + 1, '\\' :: c :: cs =>
    let (more, stop) := escapedText fuel cs
    match simpleEscape? c with
    | some b => (b :: more, stop)
    | none => (Utf8.encode ['\\', c] ++ more, stop)
  | fuel + 1, c :: cs =>
    let (more, stop) := escapedText fuel cs
    (Utf8.encode [c] ++ more, stop)

def spaced (arguments : List String) : List Char := (" ".intercalate arguments).toList

/-- The shell's own `echo` replaces escapes. -/
def echo (arguments : List String) : List UInt8 :=
  let (isOpen, arguments) := match arguments with
    | "-n" :: rest => (true, rest)
    | arguments => (false, arguments)
  let text := spaced arguments
  let (bytes, stop) := escapedText (text.length + 1) text
  if isOpen || stop then bytes else bytes ++ [10]

/-- The program `echo` replaces escapes only where it is asked to. -/
def plainEcho : Bool → Bool → List String → List UInt8
  | _, escapes, "-n" :: rest => plainEcho true escapes rest
  | isOpen, _, "-e" :: rest => plainEcho isOpen true rest
  | isOpen, _, "-E" :: rest => plainEcho isOpen false rest
  | isOpen, escapes, arguments =>
    let text := spaced arguments
    if escapes then
      let (bytes, stop) := escapedText (text.length + 1) text
      if isOpen || stop then bytes else bytes ++ [10]
    else Utf8.encode text ++ if isOpen then [] else [10]

/-- A conversion of `printf`: flags, width, precision and its letter. -/
structure Conversion where
  leftAligned : Bool
  zeroPadded : Bool
  width : Nat
  precision : Option Nat
  letter : Char

def conversion? (cs : List Char) : Option (Conversion × List Char) :=
  let flags := cs.takeWhile fun c => "-+ #0".toList.contains c
  let cs := cs.drop flags.length
  let width := cs.takeWhile Char.isDigit
  let cs := cs.drop width.length
  let (precision, cs) := match cs with
    | '.' :: cs =>
      let ds := cs.takeWhile Char.isDigit
      (some (((String.ofList ds).toNat?).getD 0), cs.drop ds.length)
    | cs => (none, cs)
  match cs with
  | letter :: cs =>
    some (⟨flags.contains '-', flags.contains '0', ((String.ofList width).toNat?).getD 0, precision,
      letter⟩, cs)
  | [] => none

def Conversion.padded (c : Conversion) (text : List Char) : List Char :=
  let missing := c.width - text.length
  if c.leftAligned then text ++ List.replicate missing ' '
  else
    match c.zeroPadded, text with
    | true, '-' :: digits => '-' :: List.replicate missing '0' ++ digits
    | true, digits => List.replicate missing '0' ++ digits
    | false, text => List.replicate missing ' ' ++ text

def intText (n : Int) : List Char :=
  if n < 0 then '-' :: Nat.toDigits 10 n.natAbs else Nat.toDigits 10 n.toNat

def Conversion.apply (c : Conversion) (argument : String) : List UInt8 :=
  match c.letter with
  | 's' =>
    let text := argument.toList
    Utf8.encode (c.padded (match c.precision with | some n => text.take n | none => text))
  | 'c' => Utf8.encode (c.padded (argument.toList.take 1))
  | 'b' => (escapedText (argument.length + 1) argument.toList).1
  | 'X' =>
    let text := (Nat.toDigits 16 ((argument.toInt?).getD 0).toNat).map Char.toUpper
    Utf8.encode (c.padded text)
  | 'x' => Utf8.encode (c.padded (Nat.toDigits 16 ((argument.toInt?).getD 0).toNat))
  | 'o' => Utf8.encode (c.padded (Nat.toDigits 8 ((argument.toInt?).getD 0).toNat))
  | _ => Utf8.encode (c.padded (intText ((argument.toInt?).getD 0)))

/-- One pass over a format: the bytes written and the arguments left over. -/
def formatOnce : Nat → List Char → List String → List UInt8 × List String
  | 0, _, arguments => ([], arguments)
  | _, [], arguments => ([], arguments)
  | fuel + 1, '\\' :: c :: cs, arguments =>
    if isOctal c then
      let (b, rest) := octalByte 3 (c :: cs)
      let (more, arguments) := formatOnce fuel rest arguments
      (b :: more, arguments)
    else
      let (more, arguments) := formatOnce fuel cs arguments
      match simpleEscape? c with
      | some b => (b :: more, arguments)
      | none => (Utf8.encode (if c = '"' then [c] else ['\\', c]) ++ more, arguments)
  | fuel + 1, '%' :: '%' :: cs, arguments =>
    let (more, arguments) := formatOnce fuel cs arguments
    (37 :: more, arguments)
  | fuel + 1, '%' :: cs, arguments =>
    match conversion? cs with
    | none => ([37], arguments)
    | some (c, rest) =>
      let (more, left) := formatOnce fuel rest (arguments.drop 1)
      (c.apply (arguments.headD "") ++ more, left)
  | fuel + 1, c :: cs, arguments =>
    let (more, arguments) := formatOnce fuel cs arguments
    (Utf8.encode [c] ++ more, arguments)

/-- The format is used again while it takes arguments and some are left. -/
def formatAll : Nat → List Char → List String → List UInt8
  | 0, _, _ => []
  | fuel + 1, format, arguments =>
    let (bytes, rest) := formatOnce (format.length + 1) format arguments
    if rest.isEmpty ∨ rest.length = arguments.length then bytes
    else bytes ++ formatAll fuel format rest

def printf : List String → List UInt8
  | [] => []
  | format :: arguments => formatAll (arguments.length + 1) format.toList arguments

/-- The decision on at most one comparison; none where it makes no sense. -/
def comparison? (isFile isDirectory : String → Bool) : List String → Option Bool
  | [] => some false
  | ["!", a] => some a.isEmpty
  | "!" :: a :: b :: rest => (comparison? isFile isDirectory (a :: b :: rest)).map (!·)
  | [a] => some (!a.isEmpty)
  | ["-z", a] => some a.isEmpty
  | ["-n", a] => some (!a.isEmpty)
  | ["-e", a] => some (isFile a || isDirectory a)
  | ["-r", a] => some (isFile a || isDirectory a)
  | ["-w", a] => some (isFile a || isDirectory a)
  | ["-f", a] => some (isFile a)
  | ["-d", a] => some (isDirectory a)
  | ["-t", _] => some false
  | [a, "=", b] => some (a == b)
  | [a, "!=", b] => some (a != b)
  | [a, op, b] => do
    let m ← a.toInt?
    let n ← b.toInt?
    match op with
    | "-eq" => some (m == n)
    | "-ne" => some (m != n)
    | "-lt" => some (m < n)
    | "-le" => some (m ≤ n)
    | "-gt" => some (m > n)
    | "-ge" => some (m ≥ n)
    | _ => none
  | _ => none

/-- The decision of `test`; none where it makes no sense of its arguments. Comparisons may be
joined, the conjunctions tighter. -/
def test? (isFile isDirectory : String → Bool) (arguments : List String) : Option Bool :=
  match comparison? isFile isDirectory arguments with
  | some answer => some answer
  | none => do
    let answers ← (arguments.splitOn "-o").mapM fun part =>
      ((part.splitOn "-a").mapM (comparison? isFile isDirectory)).map (·.all id)
    return answers.any id

end RaceControl.Host.Shell
