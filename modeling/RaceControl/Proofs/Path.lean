import Mathlib.Data.List.Basic
import Mathlib.Data.List.Induction
import RaceControl.Proofs.CommandLine

/-!
Paths by the names on them. Joining puts the names of one path behind those of another, whatever
separators and `.` pieces there are, and the directory that holds a path has all of its names but the
last.
-/
namespace RaceControl.Path
variable {p q : Path}

/-- The names on a path: its pieces but for the empty ones and `.`. -/
def names (p : Path) : List (List Char) :=
  (p.chars.splitOn '/').filter fun piece => !isBlank true piece

/-- Paths that differ in separators and `.` pieces at most. -/
def Agrees (p q : Path) : Prop := p.isAbsolute = q.isAbsolute ∧ p.names = q.names

instance : Decidable (p.Agrees q) := inferInstanceAs (Decidable (_ ∧ _))

lemma Agrees.refl (p : Path) : p.Agrees p := ⟨rfl, rfl⟩

lemma isAbsolute_iff : p.isAbsolute = true ↔ p.chars.head? = some '/' := beq_iff_eq

lemma names_separator (front back : List Char) :
    names ⟨front ++ '/' :: back⟩ = names ⟨front⟩ ++ names ⟨back⟩ := by
  rw [names, List.splitOn_append_cons_self, List.filter_append]
  rfl

lemma isEmpty_of_isAbsolute (absolute : p.isAbsolute) : p.isEmpty = false := by
  obtain ⟨rest, rooted⟩ := List.head?_eq_some_iff.mp (isAbsolute_iff.mp absolute)
  rw [isEmpty, rooted]
  rfl

/-- Behind a directory only an absolute path leads elsewhere. -/
lemma isAbsolute_join_iff (directory : p.isEmpty = false) :
    (p.join q).isAbsolute ↔ p.isAbsolute ∨ q.isAbsolute := by
  have some : p.chars ≠ [] := by
    intro none
    simp [isEmpty, none] at directory
  unfold join
  split_ifs with absolute ends
  · exact iff_of_true absolute (.inr absolute)
  all_goals
    simp only [isAbsolute_iff, List.head?_append_of_ne_nil _ some] at absolute ⊢
    exact (or_iff_left absolute).symm

lemma names_join (p : Path) (relative : ¬q.isAbsolute) : (p.join q).names = p.names ++ q.names := by
  unfold join
  rw [if_neg relative]
  split_ifs with ends
  · rcases ends with empty | separator
    · have none : p.names = [] := by
        rw [names, empty]
        rfl
      rw [none, empty]
      rfl
    · obtain ⟨front, whole⟩ := List.getLast?_eq_some_iff.mp separator
      have last : p.names = names ⟨front⟩ := by
        rw [names, whole, List.splitOn_append_cons_self, List.filter_append]
        exact List.append_nil _
      rw [last, whole, List.append_assoc]
      exact names_separator front q.chars
  · exact names_separator p.chars q.chars

/-- A path that is joined to a directory has a separator in it. -/
lemma separator_mem_join (directory : p.isEmpty = false) (q : Path) :
    '/' ∈ (p.join q).chars := by
  unfold join
  split_ifs with absolute ends
  · exact List.mem_of_mem_head? (isAbsolute_iff.mp absolute)
  · rcases ends with empty | separator
    · simp [isEmpty, empty] at directory
    · exact List.mem_append_left _ (List.mem_of_getLast? separator)
  · simp

/-! ## Paths as seen from a directory -/

lemma absolutize_of_isAbsolute (cwd : Path) (absolute : p.isAbsolute) : absolutize cwd p = p :=
  if_pos absolute

lemma absolutize_of_relative (cwd : Path) (relative : ¬p.isAbsolute) :
    absolutize cwd p = cwd.join p :=
  if_neg relative

lemma isAbsolute_absolutize {cwd : Path} (inside : cwd.isAbsolute) (p : Path) :
    (absolutize cwd p).isAbsolute := by
  by_cases absolute : p.isAbsolute
  · rwa [absolutize_of_isAbsolute cwd absolute]
  · rw [absolutize_of_relative cwd absolute]
    exact (isAbsolute_join_iff (isEmpty_of_isAbsolute inside)).mpr (.inl inside)

/-! ## The directory that holds a path -/

/-- The names among the pieces between separators. -/
def named (pieces : List (List Char)) : List (List Char) :=
  pieces.filter fun piece => !isBlank true piece

lemma trimEnd_concat (pieces : List (List Char)) (piece : List Char) :
    trimEnd true (pieces ++ [piece]) =
      if isBlank true piece then trimEnd true pieces else pieces ++ [piece] := by
  induction pieces with
  | nil => rfl
  | cons first rest ih =>
    rw [List.cons_append, trimEnd, ih]
    by_cases blank : isBlank true piece
    · simp only [if_pos blank]
      rfl
    · simp only [if_neg blank]
      cases rest <;> rfl

/-- Pieces up to the last name among them. -/
inductive Trims (pieces : List (List Char)) : List (List Char) → Prop
  | nothing : named pieces = [] → Trims pieces []
  | upTo {front name} : isBlank true name = false → named pieces = named front ++ [name] →
    front ++ [name] <+: pieces → Trims pieces (front ++ [name])

lemma trims_trimEnd (pieces : List (List Char)) : Trims pieces (trimEnd true pieces) := by
  induction pieces using List.reverseRecOn with
  | nil => exact .nothing rfl
  | append_singleton pieces piece ih =>
    rw [trimEnd_concat]
    split_ifs with blank
    · have same : named (pieces ++ [piece]) = named pieces := by simp [named, blank]
      generalize trimEnd true pieces = kept at ih
      cases ih with
      | nothing none => exact .nothing (same.trans none)
      | upTo name whole longer =>
        exact .upTo name (same.trans whole) (longer.trans (List.prefix_append ..))
    · have name : isBlank true piece = false := by simpa using blank
      exact .upTo name (by simp [named, name]) (List.prefix_refl _)

/-- Behind a root every piece stands behind a separator of its own. -/
lemma separator_intercalate {pieces : List (List Char)} (some : pieces ≠ []) :
    '/' :: ['/'].intercalate pieces = pieces.flatMap ('/' :: ·) := by
  induction pieces with
  | nil => contradiction
  | cons piece rest ih =>
    cases rest with
    | nil => simp
    | cons next rest =>
      rw [List.intercalate_cons_cons, List.flatMap_cons, ← ih (List.cons_ne_nil _ _)]
      simp

lemma names_rooted {pieces : List (List Char)} (cut : ∀ piece ∈ pieces, '/' ∉ piece) :
    names ⟨'/' :: ['/'].intercalate pieces⟩ = named pieces := by
  refine (names_separator [] _).trans ?_
  by_cases none : pieces = []
  · subst none
    rfl
  · exact congrArg named (List.splitOn_intercalate '/' cut none)

/-- The pieces of an absolute path. -/
lemma exists_pieces (absolute : p.isAbsolute) :
    ∃ pieces : List (List Char), pieces ≠ [] ∧ (∀ piece ∈ pieces, '/' ∉ piece) ∧
      p = ⟨'/' :: ['/'].intercalate pieces⟩ ∧ p.split = (['/'], trimEnd true pieces) := by
  obtain ⟨body, rooted⟩ := List.head?_eq_some_iff.mp (isAbsolute_iff.mp absolute)
  refine ⟨body.splitOn '/', List.splitOn_ne_nil _ _, fun _ => Plugin.not_mem_of_mem_splitOn, ?_, ?_⟩
  · rw [List.intercalate_splitOn, ← rooted]
  · rw [split, rooted]
    rfl

/-- A directory as it is written in the path of something in it. -/
structure Holds (dir p : Path) : Prop where
  isAbsolute : dir.isAbsolute
  names : dir.names = p.names.dropLast
  written : dir.chars <+: p.chars
  /-- Nothing stands behind the last name, and nothing but the separator where there is none. -/
  ends : ∀ name ∈ dir.names.getLast?, '/' :: name <:+ dir.chars
  root : dir.names = [] → dir.chars = ['/']

/-- The names of trimmed pieces are those of the pieces themselves, and so is what stands in front
of them. -/
lemma Trims.holds {pieces front kept : List (List Char)} {name : List Char}
    (cut : ∀ piece ∈ pieces, '/' ∉ piece) (trims : Trims front kept)
    (whole : named pieces = named front ++ [name]) (written : front ++ [name] <+: pieces) :
    Holds ⟨'/' :: ['/'].intercalate kept⟩ ⟨'/' :: ['/'].intercalate pieces⟩ := by
  have last : (named pieces).dropLast = named front := by rw [whole, List.dropLast_concat]
  cases trims with
  | nothing none =>
    have root : names ⟨'/' :: ['/'].intercalate []⟩ = [] := names_rooted (by simp)
    refine ⟨rfl, ?_, by simp, ?_, fun _ => rfl⟩
    · rw [root, names_rooted cut, last, none]
    · simp only [root, List.getLast?_nil, Option.mem_def, reduceCtorEq, false_implies, implies_true]
  | @upTo shorter final isName names longer =>
    have isPrefix : shorter ++ [final] <+: pieces :=
      longer.trans ((List.prefix_append ..).trans written)
    have some : pieces ≠ [] := by
      rintro rfl
      simp at isPrefix
    have dir : Path.names ⟨'/' :: ['/'].intercalate (shorter ++ [final])⟩ =
        named shorter ++ [final] := by
      rw [names_rooted fun piece member => cut piece (isPrefix.subset member)]
      simp [named, isName]
    refine ⟨rfl, ?_, ?_, ?_, ?_⟩
    · rw [dir, names_rooted cut, last, names]
    · rw [separator_intercalate (by simp), separator_intercalate some]
      obtain ⟨rest, rfl⟩ := isPrefix
      exact ⟨rest.flatMap ('/' :: ·), List.flatMap_append.symm⟩
    · rw [dir, separator_intercalate (by simp)]
      simp
    · simp [dir]

lemma parent?_of_isAbsolute (absolute : p.isAbsolute) :
    p.names = [] ∧ p.parent? = none ∨
      p.names ≠ [] ∧ ∃ dir, p.parent? = some dir ∧ dir.Holds p := by
  obtain ⟨pieces, some, cut, rfl, split⟩ := exists_pieces absolute
  rw [names_rooted cut, parent?, split]
  have trimmed := trims_trimEnd pieces
  generalize trimEnd true pieces = kept at trimmed
  cases trimmed with
  | nothing none => exact .inl ⟨none, rfl⟩
  | @upTo front name isName whole written =>
    have parent : (front ++ [name]).dropLast = front := List.dropLast_concat
    refine .inr ⟨by simp [whole], _, by simp [parent]; rfl, ?_⟩
    exact (trims_trimEnd front).holds cut whole written

end RaceControl.Path
