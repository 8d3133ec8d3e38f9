import Knotwork.Proofs.Play
import Mathlib.Data.List.DropRight

/-! What a run leaves in the variables. Main statement: the state at the end is told by the choices
that were taken and by the lists in which a variable is declared, whatever else happened on the way. -/

namespace Knotwork

structure Step where
  source : Position
  choice : Choice
  target : Position
deriving DecidableEq

namespace Step

def changesScene (step : Step) : Bool :=
  decide (step.source.knot.scene ≠ step.target.knot.scene)

def assignments (steps : List Step) (name : Text) : List Bool :=
  Change.assignments (steps.flatMap fun step => step.choice.changes) name

def inLastScene (steps : List Step) : List Step := steps.rtakeWhile fun step => !step.changesScene

theorem mem_assignments (steps : List Step) (name : Text) (value : Bool) :
    value ∈ assignments steps name ↔
      ∃ step ∈ steps, ∃ change ∈ step.choice.changes, change.name = name ∧ change.value = value := by
  simp only [assignments, Change.assignments, List.mem_map, List.mem_filter, List.mem_flatMap,
    decide_eq_true_eq]
  constructor
  · rintro ⟨change, ⟨⟨step, taken, made⟩, named⟩, valued⟩
    exact ⟨step, taken, change, made, named, valued⟩
  · rintro ⟨step, taken, change, made, named, valued⟩
    exact ⟨change, ⟨⟨step, taken, made⟩, named⟩, valued⟩

theorem assignments_concat (steps : List Step) (step : Step) (name : Text) :
    assignments (steps ++ [step]) name =
      assignments steps name ++ Change.assignments step.choice.changes name := by
  simp [assignments, Change.assignments]

theorem inLastScene_concat (steps : List Step) (step : Step) :
    inLastScene (steps ++ [step]) =
      if step.changesScene then [] else inLastScene steps ++ [step] := by
  unfold inLastScene
  by_cases changes : step.changesScene = true
  · rw [if_pos changes, List.rtakeWhile_concat_neg _ _ _ (by simp [changes])]
  · rw [if_neg changes, List.rtakeWhile_concat_pos _ _ _ (by simpa using changes)]

end Step

inductive Script.Run (script : Script) (start : Position) : List Step → Position → Prop
  | stay : Run script start [] start
  | take {steps source choice target} : Run script start steps source →
      script.follow? source choice = some target →
      Run script start (steps ++ [⟨source, choice, target⟩]) target

namespace Script

namespace Run

variable {script : Script} {start last : Position} {steps : List Step} {name : Text}

theorem mem_keys (run : script.Run start steps last) (present : name ∈ start.state.keys) :
    name ∈ last.state.keys := by
  induction run with
  | stay => exact present
  | take _ followed ih => exact mem_keys_follow followed ih

theorem find?_of_unbound (run : script.Run start steps last)
    (notFlag : name ∉ script.declarations.flags) (notLocal : name ∉ script.declarations.locals) :
    last.state.find? name = (Step.assignments steps name).getLast?.or (start.state.find? name) := by
  induction run with
  | stay => rfl
  | take _ followed ih =>
      rw [find?_follow_of_unbound followed notFlag notLocal, ih, Step.assignments_concat,
        List.getLast?_append, Option.or_assoc]

theorem find?_of_local (run : script.Run start steps last)
    (begins : start.state.find? name = some false)
    (notFlag : name ∉ script.declarations.flags) (sceneLocal : name ∈ script.declarations.locals) :
    last.state.find? name =
      some ((Step.assignments (Step.inLastScene steps) name).getLast?.getD false) := by
  induction run with
  | stay => exact begins
  | @take steps source choice target _ followed ih =>
      rw [find?_follow_of_local followed notFlag sceneLocal, Step.inLastScene_concat]
      -- A change of scene forgets the step that made it, with all that it assigned.
      by_cases changes : source.knot.scene = target.knot.scene
      · have stays : Step.changesScene ⟨source, choice, target⟩ = false := by
          simp [Step.changesScene, changes]
        rw [if_neg (by simp [changes]), ih, stays, if_neg (by simp), Step.assignments_concat,
          List.getLast?_append]
        cases (Change.assignments choice.changes name).getLast? <;> rfl
      · have moves : Step.changesScene ⟨source, choice, target⟩ = true := by
          simp [Step.changesScene, changes]
        rw [if_pos changes, moves, if_pos rfl]
        rfl

theorem flag_iff (run : script.Run start steps last) (unset : start.state.value name = false)
    (flag : name ∈ script.declarations.flags) :
    last.state.value name = true ↔ true ∈ Step.assignments steps name := by
  induction run with
  | stay => simp [unset, Step.assignments, Change.assignments]
  | take _ followed ih =>
      rw [flag_follow_iff followed flag, ih, Step.assignments_concat, List.mem_append]

end Run

end Script

/-- The state at the end of a run, variable by variable. A flag is true if some choice set it; a
local variable has the value that was assigned to it last since the scene changed; a global one has
the value that was assigned to it last; all three are false otherwise. A variable that is not
declared has the value that was assigned to it last, and none if there was no assignment. A name in
several lists is a flag before it is local, and local before it is global. -/
theorem run_determines_state {script : Script} {start last : Position} {steps : List Step}
    (begins : start.state = State.initial script.declarations)
    (run : script.Run start steps last) (name : Text) :
    (name ∈ script.declarations.flags →
      name ∈ last.state.keys ∧
        (last.state.value name = true ↔
          ∃ step ∈ steps, ∃ change ∈ step.choice.changes,
            change.name = name ∧ change.value = true)) ∧
    (name ∉ script.declarations.flags → name ∈ script.declarations.locals →
      last.state.find? name =
        some ((Step.assignments (Step.inLastScene steps) name).getLast?.getD false)) ∧
    (name ∉ script.declarations.flags → name ∉ script.declarations.locals →
      name ∈ script.declarations.globals →
      last.state.find? name = some ((Step.assignments steps name).getLast?.getD false)) ∧
    (name ∉ script.declarations.flags → name ∉ script.declarations.locals →
      name ∉ script.declarations.globals →
      last.state.find? name = (Step.assignments steps name).getLast?) := by
  have initial := State.find?_initial script.declarations name
  have declared := Declarations.mem_names script.declarations name
  rw [← begins] at initial
  refine ⟨?_, ?_, ?_, ?_⟩
  · intro flag
    rw [if_pos (declared.mpr (Or.inr (Or.inl flag)))] at initial
    have present : name ∈ start.state.keys := (Table.mem_keys_iff _ _).mpr (by rw [initial]; rfl)
    have unset : start.state.value name = false := by rw [State.value, initial]; rfl
    refine ⟨run.mem_keys present, ?_⟩
    rw [run.flag_iff unset flag, Step.mem_assignments]
  · intro notFlag sceneLocal
    rw [if_pos (declared.mpr (Or.inr (Or.inr sceneLocal)))] at initial
    exact run.find?_of_local initial notFlag sceneLocal
  · intro notFlag notLocal global
    rw [if_pos (declared.mpr (Or.inl global))] at initial
    rw [run.find?_of_unbound notFlag notLocal, initial]
    cases (Step.assignments steps name).getLast? <;> rfl
  · intro notFlag notLocal notGlobal
    rw [if_neg (by simp [declared, notFlag, notLocal, notGlobal])] at initial
    rw [run.find?_of_unbound notFlag notLocal, initial, Option.or_none]

namespace Lodge

def hall : Knot where
  name := "hall"
  scene := "inside"
  choices :=
    [{ text := "Swear"
       changes := [⟨"oath", true⟩, ⟨"draft", true⟩, ⟨"mood", true⟩, ⟨"oath", false⟩] },
     { text := "Leave", changes := [⟨"draft", true⟩, ⟨"mood", false⟩], target := some "yard" }]

def yard : Knot where
  name := "yard"
  scene := "outside"
  choices := [{ text := "Write", changes := [⟨"note", false⟩, ⟨"note", true⟩] }]

def script : Script where
  declarations :=
    { globals := ["mood", "oath"], flags := ["oath"], locals := ["draft", "oath"] }
  knots := [hall, yard]
  distinct := by decide

def entered : Position := ⟨hall, Table.ofPairs [("mood", false), ("oath", false), ("draft", false)]⟩

def sworn : Position := ⟨hall, Table.ofPairs [("mood", true), ("oath", true), ("draft", true)]⟩

def left : Position := ⟨yard, Table.ofPairs [("mood", false), ("oath", true), ("draft", false)]⟩

def noted : Position :=
  ⟨yard, Table.ofPairs [("mood", false), ("oath", true), ("draft", false), ("note", true)]⟩

end Lodge

theorem run_determines_state_lodge :
    ∃ steps last, Lodge.script.Run Lodge.entered steps last ∧ steps.length = 3 ∧
      last.state.value "oath" = true ∧ last.state.find? "draft" = some false ∧
      last.state.find? "mood" = some false ∧ last.state.find? "note" = some true ∧
      last.state.find? "ghost" = none := by
  let swear : Choice := Lodge.hall.choices.get ⟨0, by decide⟩
  let leave : Choice := Lodge.hall.choices.get ⟨1, by decide⟩
  let write : Choice := Lodge.yard.choices.get ⟨0, by decide⟩
  have begins : Lodge.entered.state = State.initial Lodge.script.declarations := by decide
  have first : Lodge.script.follow? Lodge.entered swear = some Lodge.sworn := by decide
  have second : Lodge.script.follow? Lodge.sworn leave = some Lodge.left := by decide
  have third : Lodge.script.follow? Lodge.left write = some Lodge.noted := by decide
  have run := ((Script.Run.stay.take first).take second).take third
  have told := run_determines_state begins run
  refine ⟨_, _, run, rfl, ?_, ?_, ?_, ?_, ?_⟩
  · exact ((told "oath").1 (by decide)).2.mpr
      ⟨⟨Lodge.entered, swear, Lodge.sworn⟩, by simp, ⟨"oath", true⟩, by decide, rfl, rfl⟩
  · exact (told "draft").2.1 (by decide) (by decide)
  · exact (told "mood").2.2.1 (by decide) (by decide) (by decide)
  · exact (told "note").2.2.2 (by decide) (by decide) (by decide)
  · exact (told "ghost").2.2.2 (by decide) (by decide) (by decide)

end Knotwork
