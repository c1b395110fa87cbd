import RaceControl.Proofs.Supervisor.Runs

/-!
Parts of runs, step by step, where it matters in which states the steps have been taken.
-/
namespace RaceControl.System
variable {start s t : System} {seen more : List Effect} {i : Input}

/-- A step with the states before and after it. -/
structure Transit where
  before : System
  input : Input
  after : System
  shown : List Effect

/-- What is seen of the steps of a passage. -/
def shownIn (passed : List Transit) : List Effect := passed.flatMap (·.shown)

@[simp] lemma shownIn_nil : shownIn [] = [] := rfl

@[simp] lemma shownIn_append (passed later : List Transit) :
    shownIn (passed ++ later) = shownIn passed ++ shownIn later :=
  List.flatMap_append

@[simp] lemma shownIn_singleton (transit : Transit) : shownIn [transit] = transit.shown :=
  List.flatMap_singleton ..

/-- A part of a run with all its steps. -/
inductive Passage (start : System) : System → List Transit → Prop
  | none : Passage start start []
  | step {s t : System} {passed : List Transit} {i : Input} {more : List Effect} :
    Passage start s passed → s.step? i = some (t, more) →
    Passage start t (passed ++ [⟨s, i, t, more⟩])

variable {passed later : List Transit}

/-- A passage of a run leads on to a run. -/
lemma Passage.run {settings : Settings} {collaborators : Collaborators}
    (passage : Passage start s passed) (run : Run (fresh settings collaborators) start seen) :
    Run (fresh settings collaborators) s (seen ++ shownIn passed) := by
  induction passage with
  | none => simpa using run
  | step _ step ih =>
    rw [shownIn_append, shownIn_singleton, ← List.append_assoc]
    exact ih.step step

lemma Passage.trans {u : System} (first : Passage start s passed) (second : Passage s u later) :
    Passage start u (passed ++ later) := by
  induction second with
  | none => simpa using first
  | step _ step ih =>
    rw [← List.append_assoc]
    exact ih.step step

/-- Steps taken one after another are a passage, with the inputs that were given. -/
lemma Passage.of_inputs {inputs : List Input} {shown : List Effect}
    (steps : s.steps? inputs = some (t, shown)) :
    ∃ passed, Passage s t passed ∧ shownIn passed = shown ∧ passed.map (·.input) = inputs := by
  induction inputs generalizing s shown with
  | nil =>
    cases steps
    exact ⟨[], .none, rfl, rfl⟩
  | cons i rest ih =>
    obtain ⟨⟨u, more⟩, step, steps⟩ := Option.bind_eq_some_iff.mp steps
    obtain ⟨⟨v, last⟩, remaining, same⟩ := Option.map_eq_some_iff.mp steps
    cases same
    obtain ⟨passed, passage, shown, inputs⟩ := ih remaining
    refine ⟨[⟨s, i, u, more⟩] ++ passed, (Passage.none.step step).trans passage, ?_, ?_⟩
    · rw [shownIn_append, shownIn_singleton, shown]
    · rw [List.map_append, inputs]
      rfl

lemma Passage.of_steps {inputs : List Input} {shown : List Effect}
    (steps : s.steps? inputs = some (t, shown)) :
    ∃ passed, Passage s t passed ∧ shownIn passed = shown := by
  obtain ⟨passed, passage, shown, -⟩ := Passage.of_inputs steps
  exact ⟨passed, passage, shown⟩

end RaceControl.System
