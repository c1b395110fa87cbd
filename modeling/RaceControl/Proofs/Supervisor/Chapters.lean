import Mathlib.Data.List.Basic
import RaceControl.Proofs.Supervisor.Effects

/-!
What a run does for its sessions is told in chapters, one for each relay that is opened. A chapter
of a session launches it and tears it down.
-/
namespace RaceControl
variable {effect : Effect} {more : List Effect}

/-- What only some of the effects tell is told by these alone. -/
lemma filterMap_filter_told {α : Type} {p : Effect → Bool} {tell? : Effect → Option α}
    (only : ∀ effect, p effect = false → tell? effect = none) (seen : List Effect) :
    (seen.filter p).filterMap tell? = seen.filterMap tell? := by
  rw [List.filterMap_filter]
  refine List.filterMap_congr fun effect _ => ?_
  cases told : p effect with
  | true => rfl
  | false => exact (only effect told).symm

/-- Whether an effect is work on a session, or leads to one. -/
def Effect.isMilestone : Effect → Bool
  | .relayOpened _ | .relayClosed _ | .serverStarted .. | .launched _ | .wrapperStopped
  | .killing _ | .childKilled _ | .signalling _ | .signalled _ | .tornDown _ => true
  | _ => false

def milestones (seen : List Effect) : List Effect := seen.filter Effect.isMilestone

lemma milestones_append (seen more : List Effect) :
    milestones (seen ++ more) = milestones seen ++ milestones more :=
  List.filter_append ..

lemma milestones_of_minor (minor : ∀ effect ∈ more, System.Minor effect) :
    milestones more = [] := by
  refine List.filter_eq_nil_iff.mpr fun effect shown => ?_
  cases minor effect shown with
  | incidental incidental => cases incidental <;> exact Bool.false_ne_true
  | aside aside => cases aside <;> exact Bool.false_ne_true
  | answered | finished => exact Bool.false_ne_true

/-- What becomes of a relay that has been opened: no server could be started for it, or it has
served a session. A round of signals reaches some of the channels it goes over. -/
inductive Chapter
  | abortive (relay : Nat)
  | session (relay : Nat) (session : Session) (spec : ProcessSpec) (children : List Child)
    (channels signalled : List Nat) (sent : signalled.Sublist channels)

namespace Chapter

def launch (relay : Nat) (session : Session) (spec : ProcessSpec) : List Effect :=
  [.relayOpened relay, .serverStarted session.generation session.pid spec,
    .launched session.generation]

def farewell (hasWrapper : Bool) (relay : Nat) : List Effect :=
  .relayClosed relay :: if hasWrapper then [.wrapperStopped] else []

def kills (children : List Child) : List Effect := .killing children :: children.map .childKilled

def signals (channels signalled : List Nat) : List Effect :=
  .signalling channels :: signalled.map .signalled

/-- The milestones of a chapter in their order. -/
def milestones (hasWrapper : Bool) : Chapter → List Effect
  | .abortive relay => [.relayOpened relay, .relayClosed relay]
  | .session relay x spec children channels signalled _ =>
    launch relay x spec ++ (farewell hasWrapper relay ++ kills children ++
      signals channels signalled ++ [.tornDown x.generation])

end Chapter

def Effect.isLaunch : Effect → Bool
  | .launched _ => true
  | _ => false

def Effect.isTeardown : Effect → Bool
  | .tornDown _ => true
  | _ => false

/-- The successful launches and the teardowns of a history. -/
def boundaries (seen : List Effect) : List Effect :=
  seen.filter fun effect => effect.isLaunch || effect.isTeardown

/-- The launch of a session with its teardown. -/
def boundaryPair (generation : Nat) : List Effect := [.launched generation, .tornDown generation]

lemma boundaries_milestones (seen : List Effect) :
    boundaries (milestones seen) = boundaries seen := by
  rw [boundaries, milestones, List.filter_filter]
  congr 1
  funext effect
  cases effect <;> rfl

lemma boundaries_append (seen more : List Effect) :
    boundaries (seen ++ more) = boundaries seen ++ boundaries more :=
  List.filter_append ..

lemma boundaries_chapter (hasWrapper : Bool) (chapter : Chapter) :
    ∃ generations : List Nat,
      boundaries (chapter.milestones hasWrapper) = generations.flatMap boundaryPair := by
  cases chapter with
  | abortive relay => exact ⟨[], rfl⟩
  | session relay x spec children channels signalled sent =>
    have farewell : boundaries (Chapter.farewell hasWrapper relay) = [] := by
      cases hasWrapper <;> rfl
    have kills : boundaries (Chapter.kills children) = [] :=
      List.filter_eq_nil_iff.mpr (by simp [Chapter.kills, Effect.isLaunch, Effect.isTeardown])
    have signals : boundaries (Chapter.signals channels signalled) = [] :=
      List.filter_eq_nil_iff.mpr (by simp [Chapter.signals, Effect.isLaunch, Effect.isTeardown])
    refine ⟨[x.generation], ?_⟩
    simp only [Chapter.milestones, boundaries_append, farewell, kills, signals]
    rfl

lemma boundaries_chapters (hasWrapper : Bool) (chapters : List Chapter) :
    ∃ generations : List Nat, boundaries (chapters.flatMap (·.milestones hasWrapper)) =
      generations.flatMap boundaryPair := by
  induction chapters with
  | nil => exact ⟨[], rfl⟩
  | cons chapter rest ih =>
    obtain ⟨first, one⟩ := boundaries_chapter hasWrapper chapter
    obtain ⟨others, all⟩ := ih
    refine ⟨first ++ others, ?_⟩
    rw [List.flatMap_cons, boundaries_append, one, all, List.flatMap_append]

lemma countP_boundaryPairs (generations : List Nat) :
    (generations.flatMap boundaryPair).countP Effect.isLaunch = generations.length ∧
      (generations.flatMap boundaryPair).countP Effect.isTeardown = generations.length := by
  induction generations with
  | nil => exact ⟨rfl, rfl⟩
  | cons generation rest ih =>
    rw [List.flatMap_cons, List.countP_append, List.countP_append, ih.1, ih.2]
    exact ⟨Nat.add_comm 1 _, Nat.add_comm 1 _⟩

lemma countP_boundaries (seen : List Effect) :
    (boundaries seen).countP Effect.isLaunch = seen.countP Effect.isLaunch ∧
      (boundaries seen).countP Effect.isTeardown = seen.countP Effect.isTeardown := by
  rw [boundaries, List.countP_filter, List.countP_filter]
  constructor <;>
  · congr 1
    funext effect
    cases effect <;> rfl

def generation? : Effect → Option Nat
  | .serverStarted generation _ _ => some generation
  | _ => none

/-- The generations of the servers that have been started. -/
def generations (seen : List Effect) : List Nat := seen.filterMap generation?

@[simp] lemma generations_append (seen more : List Effect) :
    generations (seen ++ more) = generations seen ++ generations more :=
  List.filterMap_append

lemma generation?_of_minor (minor : System.Minor effect) : generation? effect = none := by
  cases minor with
  | incidental incidental => cases incidental <;> rfl
  | aside aside => cases aside <;> rfl
  | answered | finished => rfl

lemma generations_of_minor (minor : ∀ effect ∈ more, System.Minor effect) :
    generations more = [] :=
  List.filterMap_eq_nil_iff.mpr fun effect shown => generation?_of_minor (minor effect shown)

end RaceControl
