import RaceControl.Toml.Document

/-!
The record that the sections of a document make up. Sections of one path are brought together where
the path is first needed. A section is used up once its entries have been placed; a header that
repeats another one, or begins a list where a table is, makes the document invalid.
-/
namespace RaceControl.Toml

/-- Sections, each with its entries until they have been placed. -/
abbrev Stock := List (Section × Bool)

namespace Stock

def ofSections (sections : List Section) : Stock := sections.map (·, true)

def path (s : Stock) (i : Nat) : List String := (s[i]?.map (·.1.path)).getD []

def isItem (s : Stock) (i : Nat) : Bool := (s[i]?.map (·.1.isItem)).getD false

def entries (s : Stock) (i : Nat) : List (String × Datum) :=
  (s[i]?.map fun (t, _) => members t.entries).getD []

/-- Marks the entries of a section as placed. -/
def place (s : Stock) (i : Nat) : Stock := s.modify i fun (t, _) => (t, false)

/-- The first section between two positions of which a test holds. -/
def first? (s : Stock) (start limit : Nat) (test : Section × Bool → Bool) : Option Nat :=
  ((s.take limit).drop start).findIdx? test |>.map (start + ·)

/-- The next unplaced section under the first `depth` parts of the path of section `parent`. -/
def next? (s : Stock) (parent depth start limit : Nat) : Option Nat :=
  let stem := (s.path parent).take depth
  s.first? start limit fun (t, unplaced) => unplaced && stem.isPrefixOf t.path

/-- The section that begins the item behind the one that section `i` begins, or the limit. -/
def nextItem (s : Stock) (i limit : Nat) : Nat :=
  (s.first? (i + 1) limit fun (t, _) => t.isItem && t.path == s.path i).getD limit

/-- How many sections there are, and how many parts their paths have. -/
def measure (s : Stock) : Nat := s.foldl (fun n (t, _) => n + t.path.length + 3) 3

end Stock

mutual

/-- The members of the table at `depth` on the path of section `parent`, taken from the sections
between `start` and `limit`. -/
def table? : Nat → (parent depth start limit : Nat) → Stock →
    Option (List (String × Datum) × Stock)
  | 0, _, _, _, _, _ => none
  | fuel + 1, parent, depth, start, limit, s =>
    match s.next? parent depth start limit with
    | none => some ([], s)
    | some i =>
      if i ≠ parent ∧ s.path i = s.path parent then none
      else
        let parent := if i ≠ parent ∧ (s.path i).length < (s.path parent).length then i else parent
        match (s.path i)[depth]? with
        | some key => do
          let (d, s) ←
            if s.isItem i ∧ depth + 1 = (s.path i).length then
              (list? fuel i depth limit s).map fun (ds, s) => (Datum.list ds, s)
            else (table? fuel i (depth + 1) 0 limit s).map fun (ms, s) => (Datum.record ms, s)
          let (more, s) ← table? fuel parent depth (i + 1) limit s
          return ((key, d) :: more, s)
        | none =>
          if s.isItem i then none
          else do
            let (more, rest) ← table? fuel parent depth i limit (s.place i)
            return (s.entries i ++ more, rest)

/-- The items of a list, from the one that section `i` begins. Sections up to the next item belong
to it. -/
def list? : Nat → (i depth limit : Nat) → Stock → Option (List Datum × Stock)
  | 0, _, _, _, _ => none
  | fuel + 1, i, depth, limit, s =>
    if i = limit then some ([], s)
    else do
      let next := s.nextItem i limit
      let (more, rest) ← table? fuel i (depth + 1) 0 next (s.place i)
      let (items, rest) ← list? fuel next depth limit rest
      return (.record (s.entries i ++ more) :: items, rest)

end

/-- The record that a document writes. Names may be repeated in it. -/
def parse? (text : String) : Option Datum := do
  let sections ← document? text
  let s := Stock.ofSections sections
  let (ms, _) ← table? (s.measure * s.measure) 0 0 0 sections.length s
  return .record ms

end RaceControl.Toml
