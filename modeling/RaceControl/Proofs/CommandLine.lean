import Mathlib.Data.List.Basic
import RaceControl.Plugin

/-!
Command lines and the plugins they name. A line is cut at its single spaces, and a plugin is
displayed with single spaces: each undoes the other as long as no space is in the plugin itself.
-/
namespace RaceControl.Plugin
variable {line : String} {p : Plugin}

/-! ## Cutting a text at one character -/

section
variable {c : Char} {text piece : List Char}

lemma not_mem_of_mem_splitOn (cut : piece ∈ text.splitOn c) : c ∉ piece := by
  induction text generalizing piece with
  | nil =>
    obtain rfl := List.mem_singleton.mp cut
    exact List.not_mem_nil
  | cons first text ih =>
    rw [List.splitOn_cons_eq_if_modifyHead] at cut
    split_ifs at cut with same
    · rcases List.mem_cons.mp cut with rfl | later
      · exact List.not_mem_nil
      · exact ih later
    · obtain ⟨head, others, pieces⟩ := List.exists_cons_of_ne_nil (List.splitOn_ne_nil c text)
      rw [pieces] at ih cut
      rcases List.mem_cons.mp cut with rfl | later
      · have differs : first ≠ c := by simpa using same
        have absent : c ∉ head := ih List.mem_cons_self
        simpa [Ne.symm differs] using absent
      · exact ih (List.mem_cons_of_mem _ later)

end

/-! ## Plugins as lines -/

/-- The executable and the arguments in the order in which they are displayed. -/
def words (p : Plugin) : List (List Char) := p.executable.chars :: p.arguments.map String.toList

/-- A line names no plugin if nothing is in front of its first space. -/
lemma ofCommandLine?_eq_none_iff :
    ofCommandLine? line = none ↔ line = "" ∨ line.toList.head? = some ' ' := by
  unfold ofCommandLine?
  rw [← String.toList_inj]
  cases line.toList with
  | nil => simp
  | cons first text =>
    obtain ⟨head, others, pieces⟩ := List.exists_cons_of_ne_nil (List.splitOn_ne_nil ' ' text)
    rw [List.splitOn_cons_eq_if_modifyHead, pieces]
    by_cases space : first = ' '
    · simp [space]
    · simp [space]

end RaceControl.Plugin
