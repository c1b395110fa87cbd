/-!
Arithmetic expansions of the shell: whole numbers, variables, and the usual operators, of which the
looser ones come first.
-/
namespace RaceControl.Host.Shell.Arithmetic

abbrev Lookup := String → Option String

def truth (b : Bool) : Int := if b then 1 else 0

def combine? (operator : String) (a b : Int) : Option Int :=
  match operator with
  | "||" => some (truth (a ≠ 0 ∨ b ≠ 0))
  | "&&" => some (truth (a ≠ 0 ∧ b ≠ 0))
  | "==" => some (truth (a = b))
  | "!=" => some (truth (a ≠ b))
  | "<=" => some (truth (a ≤ b))
  | ">=" => some (truth (a ≥ b))
  | "<" => some (truth (a < b))
  | ">" => some (truth (a > b))
  | "+" => some (a + b)
  | "-" => some (a - b)
  | "*" => some (a * b)
  | "/" => if b = 0 then none else some (a.tdiv b)
  | "%" => if b = 0 then none else some (a.tmod b)
  | _ => none

def levels : List (List String) :=
  [["||"], ["&&"], ["==", "!="], ["<=", ">=", "<", ">"], ["+", "-"], ["*", "/", "%"]]

def skipBlanks (cs : List Char) : List Char :=
  cs.dropWhile fun c => c == ' ' || c == '\t' || c == '\n'

def number? (text : String) : Option Int :=
  let trimmed := skipBlanks text.toList
  match trimmed with
  | '-' :: ds => (String.ofList ds).toNat?.map fun n => -(n : Int)
  | ds => if ds.isEmpty then some 0 else (String.ofList ds).toNat?.map fun n => (n : Int)

mutual

/-- The value of the operators from one level on, in front of a text. -/
def level? (lookup : Lookup) : Nat → List (List String) → List Char → Option (Int × List Char)
  | 0, _, _ => none
  | fuel + 1, [], cs => operand? lookup fuel cs
  | fuel + 1, ops :: tighter, cs => do
    let (a, cs) ← level? lookup fuel tighter cs
    rest? lookup fuel ops tighter a cs

/-- Goes on with operators of one level, from the left. -/
def rest? (lookup : Lookup) : Nat → List String → List (List String) → Int → List Char →
    Option (Int × List Char)
  | 0, _, _, _, _ => none
  | fuel + 1, ops, tighter, a, cs =>
    let cs := skipBlanks cs
    match ops.find? fun op => op.toList.isPrefixOf cs with
    | none => some (a, cs)
    | some op => do
      let (b, cs) ← level? lookup fuel tighter (cs.drop op.length)
      rest? lookup fuel ops tighter (← combine? op a b) cs

def operand? (lookup : Lookup) : Nat → List Char → Option (Int × List Char)
  | 0, _ => none
  | fuel + 1, cs =>
    match skipBlanks cs with
    | '(' :: cs => do
      let (a, cs) ← level? lookup fuel levels cs
      match skipBlanks cs with
      | ')' :: cs => return (a, cs)
      | _ => none
    | '-' :: cs => (operand? lookup fuel cs).map fun (a, cs) => (-a, cs)
    | '+' :: cs => operand? lookup fuel cs
    | '!' :: cs => (operand? lookup fuel cs).map fun (a, cs) => (truth (a = 0), cs)
    | c :: cs =>
      if c.isDigit then
        let ds := c :: cs.takeWhile Char.isDigit
        (String.ofList ds).toNat?.map fun n => ((n : Int), cs.dropWhile Char.isDigit)
      else if c.isAlpha ∨ c = '_' then
        let isNameChar := fun c : Char => c.isAlphanum || c == '_'
        let name := String.ofList (c :: cs.takeWhile isNameChar)
        (number? ((lookup name).getD "")).map fun n => (n, cs.dropWhile isNameChar)
      else none
    | [] => none

end

/-- The value of a whole expression. An empty one is zero. -/
def value? (lookup : Lookup) (cs : List Char) : Option Int :=
  if (skipBlanks cs).isEmpty then some 0
  else
    match level? lookup (16 * cs.length + 32) levels cs with
    | some (a, rest) => if (skipBlanks rest).isEmpty then some a else none
    | none => none

end RaceControl.Host.Shell.Arithmetic
