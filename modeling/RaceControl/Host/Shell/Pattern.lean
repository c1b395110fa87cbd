/-!
Patterns of the shell. A star stands for any text, a question mark for one character and brackets
for one of a set; a character that is quoted stands for itself.
-/
namespace RaceControl.Host.Shell

/-- A character of a word that is used as a pattern. -/
structure PatternChar where
  char : Char
  isLiteral : Bool
  deriving DecidableEq, Repr, Inhabited

inductive Glyph
  | anything
  | anyChar
  | exactly (c : Char)
  | oneOf (isNegated : Bool) (ranges : List (Char × Char))
  deriving DecidableEq, Repr, Inhabited

namespace Glyph

def admits (c : Char) : Glyph → Bool
  | .anything | .anyChar => true
  | .exactly d => c == d
  | .oneOf isNegated ranges => (ranges.any fun (a, b) => a ≤ c && c ≤ b) != isNegated

/-- The ranges of a set, up to its closing bracket. The first character is never the closing one. -/
def ranges? : Nat → Bool → List PatternChar → Option (List (Char × Char) × List PatternChar)
  | 0, _, _ => none
  | fuel + 1, isFirst, p :: ps =>
    if p = ⟨']', false⟩ ∧ ¬isFirst then some ([], ps)
    else
      let (range, ps) := match ps with
        | ⟨'-', false⟩ :: q :: rest =>
          if q = ⟨']', false⟩ then ((p.char, p.char), ps) else ((p.char, q.char), rest)
        | ps => ((p.char, p.char), ps)
      (ranges? fuel false ps).map fun (rs, rest) => (range :: rs, rest)
  | _, _, [] => none

/-- The glyphs that characters write. A bracket that nothing closes stands for itself. -/
def ofChars : Nat → List PatternChar → List Glyph
  | 0, _ => []
  | _, [] => []
  | fuel + 1, p :: ps =>
    match p with
    | ⟨'*', false⟩ => .anything :: ofChars fuel ps
    | ⟨'?', false⟩ => .anyChar :: ofChars fuel ps
    | ⟨'[', false⟩ =>
      let (isNegated, body) := match ps with
        | ⟨'!', false⟩ :: body => (true, body)
        | body => (false, body)
      match ranges? (body.length + 1) true body with
      | some (ranges, rest) => .oneOf isNegated ranges :: ofChars fuel rest
      | none => .exactly '[' :: ofChars fuel ps
    | p => .exactly p.char :: ofChars fuel ps

/-- Whether glyphs describe a whole text. -/
def fits : List Glyph → List Char → Bool
  | [], cs => cs.isEmpty
  | .anything :: gs, [] => fits gs []
  | .anything :: gs, c :: cs => fits gs (c :: cs) || fits (.anything :: gs) cs
  | g :: gs, c :: cs => g.admits c && fits gs cs
  | _ :: _, [] => false
termination_by gs cs => gs.length + cs.length

end Glyph

def glyphs (pattern : List PatternChar) : List Glyph := Glyph.ofChars (pattern.length + 1) pattern

/-- A text without the shortest or the longest part in front, or at the end, that glyphs
describe. -/
def trimmed (atEnd longest : Bool) (gs : List Glyph) (cs : List Char) : List Char :=
  let sizes := List.range (cs.length + 1)
  let ordered := if longest then sizes.reverse else sizes
  if atEnd then
    match ordered.find? fun n => Glyph.fits gs (cs.drop (cs.length - n)) with
    | some n => cs.take (cs.length - n)
    | none => cs
  else
    match ordered.find? fun n => Glyph.fits gs (cs.take n) with
    | some n => cs.drop n
    | none => cs

end RaceControl.Host.Shell
