import Knotwork.Condition
import Knotwork.Proofs.Table

/-! How states change, variable by variable: which variables a state has after some changes and after
a purge, that flags stay set, and that nothing depends on the order in which variables came up. -/

namespace Knotwork

namespace Declarations

theorem nodup_names (declarations : Declarations) : declarations.names.Nodup :=
  nodup_firstOfEach _

theorem find?_disciplines (declarations : Declarations) (name : Text) :
    declarations.disciplines.find? name =
      if name ∈ declarations.flags then some .flag
      else if name ∈ declarations.locals then some .sceneLocal
      else if name ∈ declarations.globals then some .global
      else none := by
  rw [disciplines, Table.find?_ofPairs, List.reverse_append, List.reverse_append,
    List.lookup_append, List.lookup_append]
  simp only [Table.lookup_reverse_map_const]
  by_cases flag : name ∈ declarations.flags
  · simp [flag]
  · by_cases sceneLocal : name ∈ declarations.locals
    · simp [flag, sceneLocal]
    · simp [flag, sceneLocal]

theorem mem_names (declarations : Declarations) (name : Text) :
    name ∈ declarations.names ↔
      name ∈ declarations.globals ∨ name ∈ declarations.flags ∨ name ∈ declarations.locals := by
  rw [names, mem_firstOfEach, List.append_assoc, List.mem_append, List.mem_append]

theorem mem_namesUnder (declarations : Declarations) (discipline : Discipline) (name : Text) :
    name ∈ declarations.namesUnder discipline ↔
      declarations.disciplines.find? name = some discipline := by
  rw [namesUnder, Text.mem_sort, ← Table.mem_entries_iff]
  simp only [List.mem_map, List.mem_filter, decide_eq_true_eq]
  constructor
  · rintro ⟨⟨other, value⟩, ⟨member, rfl⟩, rfl⟩
    exact member
  · intro member
    exact ⟨(name, discipline), ⟨member, rfl⟩, rfl⟩

theorem mem_flags (declarations : Declarations) (name : Text) :
    name ∈ declarations.namesUnder .flag ↔ name ∈ declarations.flags := by
  rw [mem_namesUnder, find?_disciplines]
  by_cases flag : name ∈ declarations.flags
  · simp [flag]
  · simp only [flag, if_false, iff_false]
    split_ifs <;> simp

theorem mem_locals (declarations : Declarations) (name : Text) :
    name ∈ declarations.namesUnder .sceneLocal ↔
      name ∉ declarations.flags ∧ name ∈ declarations.locals := by
  rw [mem_namesUnder, find?_disciplines]
  by_cases flag : name ∈ declarations.flags
  · simp [flag]
  · by_cases sceneLocal : name ∈ declarations.locals
    · simp [flag, sceneLocal]
    · simp only [flag, sceneLocal, if_false, not_false_eq_true, and_false, iff_false]
      split_ifs <;> simp

theorem isFlag_iff (declarations : Declarations) (name : Text) :
    declarations.isFlag name = true ↔ name ∈ declarations.flags := by
  rw [← mem_flags, mem_namesUnder, isFlag, decide_eq_true_eq]

theorem isFlag_eq_false (declarations : Declarations) {name : Text}
    (notFlag : name ∉ declarations.flags) : declarations.isFlag name = false := by
  rw [Bool.eq_false_iff, ne_eq, isFlag_iff]
  exact notFlag

theorem declared_of_local (declarations : Declarations) {name : Text}
    (member : name ∈ declarations.namesUnder .sceneLocal) : name ∈ declarations.names := by
  rw [mem_names]
  exact Or.inr (Or.inr ((declarations.mem_locals name).mp member).2)

end Declarations

namespace Change

def assignments (changes : List Change) (name : Text) : List Bool :=
  (changes.filter fun change => change.name = name).map Change.value

theorem assignments_cons (change : Change) (changes : List Change) (name : Text) :
    assignments (change :: changes) name =
      if change.name = name then change.value :: assignments changes name
      else assignments changes name := by
  unfold assignments
  rw [List.filter_cons]
  by_cases named : change.name = name <;> simp [named]

end Change

namespace State

variable (declarations : Declarations)

theorem find?_initial (name : Text) :
    (initial declarations).find? name =
      if name ∈ declarations.names then some false else none := by
  have distinct : ((declarations.names.map (·, false)).map Prod.fst).Nodup := by
    simpa [Function.comp_def] using declarations.nodup_names
  refine Option.ext fun value => ?_
  rw [← Table.mem_entries_iff, initial, Table.entries_ofPairs_of_nodup _ distinct]
  by_cases declared : name ∈ declarations.names <;> simp [declared]

theorem find?_applyChange (state : State) (change : Change) (name : Text) :
    (applyChange declarations state change).find? name =
      if name = change.name ∧ ¬(change.value = false ∧ declarations.isFlag name = true) then
        some change.value
      else state.find? name := by
  unfold applyChange
  by_cases asked : name = change.name
  · subst asked
    by_cases ignored : change.value = false ∧ declarations.isFlag change.name = true
    · simp [ignored.1, ignored.2]
    · rw [if_neg (by simpa using ignored), if_pos ⟨rfl, ignored⟩]
      simp
  · simp only [asked, false_and, if_false]
    split
    · rfl
    · simp [asked]

theorem apply_cons (state : State) (change : Change) (changes : List Change) :
    state.apply declarations (change :: changes) =
      (applyChange declarations state change).apply declarations changes := rfl

theorem agree_apply {first second : State} (agree : first.Agree second) (changes : List Change) :
    (first.apply declarations changes).Agree (second.apply declarations changes) := by
  induction changes generalizing first second with
  | nil => exact agree
  | cons change rest ih =>
      rw [apply_cons, apply_cons]
      apply ih
      intro name
      rw [find?_applyChange, find?_applyChange, agree name]

theorem mem_keys_of_mem_keys_apply {state : State} {changes : List Change} {name : Text}
    (member : name ∈ (state.apply declarations changes).keys) :
    name ∈ state.keys ∨ name ∈ changes.map Change.name := by
  induction changes generalizing state with
  | nil => exact Or.inl member
  | cons change rest ih =>
      rw [apply_cons] at member
      rcases ih member with earlier | later
      · rw [Table.mem_keys_iff, find?_applyChange] at earlier
        split at earlier
        · rename_i assigned
          exact Or.inr (by simp [assigned.1])
        · exact Or.inl ((Table.mem_keys_iff state name).mpr earlier)
      · exact Or.inr (List.mem_cons_of_mem _ later)

theorem mem_keys_apply {state : State} (changes : List Change) {name : Text}
    (member : name ∈ state.keys) : name ∈ (state.apply declarations changes).keys := by
  induction changes generalizing state with
  | nil => exact member
  | cons change rest ih =>
      rw [apply_cons]
      apply ih
      rw [Table.mem_keys_iff, find?_applyChange]
      split
      · rfl
      · exact (Table.mem_keys_iff state name).mp member

theorem find?_apply_of_not_flag (state : State) (changes : List Change) {name : Text}
    (free : declarations.isFlag name = false) :
    (state.apply declarations changes).find? name =
      (Change.assignments changes name).getLast?.or (state.find? name) := by
  induction changes generalizing state with
  | nil => rfl
  | cons change rest ih =>
      rw [apply_cons, ih, find?_applyChange, Change.assignments_cons]
      by_cases named : change.name = name
      · rw [if_pos ⟨named.symm, by simp [free]⟩, if_pos named, List.getLast?_cons]
        cases (Change.assignments rest name).getLast? <;> rfl
      · rw [if_neg fun assigned => named assigned.1.symm, if_neg named]

theorem flag_apply_iff (state : State) (changes : List Change) {name : Text}
    (flag : declarations.isFlag name = true) :
    (state.apply declarations changes).value name = true ↔
      state.value name = true ∨ true ∈ Change.assignments changes name := by
  induction changes generalizing state with
  | nil => simp [apply, Change.assignments]
  | cons change rest ih =>
      rw [apply_cons, ih, Change.assignments_cons]
      have stepped : (applyChange declarations state change).value name = true ↔
          state.value name = true ∨ change.name = name ∧ change.value = true := by
        rw [value, find?_applyChange]
        by_cases named : change.name = name
        · cases assigned : change.value <;> simp [named, flag, value]
        · simp [named, Ne.symm named, value]
      rw [stepped]
      by_cases named : change.name = name
      · simp only [named, true_and, if_true, List.mem_cons]
        rw [or_assoc, eq_comm (a := change.value)]
      · simp [named]

theorem find?_purge (state : State) (names : List Text) (name : Text) :
    (state.purge names).find? name = if name ∈ names then some false else state.find? name := by
  induction names generalizing state with
  | nil => simp [purge, Table.insertAll]
  | cons first rest ih =>
      have step := ih (state.insert first false)
      simp only [purge, Table.insertAll, List.map_cons, List.foldl_cons] at step ⊢
      rw [step, Table.find?_insert]
      by_cases later : name ∈ rest <;> by_cases here : name = first <;> simp [later, here]

theorem agree_purge {first second : State} (agree : first.Agree second) (names : List Text) :
    (first.purge names).Agree (second.purge names) := by
  intro name
  rw [find?_purge, find?_purge, agree name]

theorem value_apply_eq {first second : State} (values : first.value = second.value)
    (changes : List Change) :
    (first.apply declarations changes).value = (second.apply declarations changes).value := by
  induction changes generalizing first second with
  | nil => exact values
  | cons change rest ih =>
      rw [apply_cons, apply_cons]
      apply ih
      funext name
      rw [value, value, find?_applyChange, find?_applyChange]
      split
      · rfl
      · exact congrFun values name

theorem value_purge_eq {first second : State} (values : first.value = second.value)
    (names : List Text) : (first.purge names).value = (second.purge names).value := by
  funext name
  rw [value, value, find?_purge, find?_purge]
  split
  · rfl
  · exact congrFun values name

theorem mem_keys_purge (state : State) (names : List Text) (name : Text) :
    name ∈ (state.purge names).keys ↔ name ∈ names ∨ name ∈ state.keys := by
  rw [Table.mem_keys_iff, find?_purge, Table.mem_keys_iff]
  by_cases purged : name ∈ names <;> simp [purged]

end State

theorem Condition.test_eq_of_value_eq (source : Text) {first second : State}
    (values : first.value = second.value) :
    Condition.test source first = Condition.test source second := by
  have holds (condition : Condition) : condition.holds first = condition.holds second := by
    simp only [Condition.holds, Comparison.holds, values]
  simp only [Condition.test, holds]

theorem State.value_eq_of_agree {first second : State} (agree : first.Agree second) :
    first.value = second.value := by
  funext name
  rw [State.value, State.value, agree name]

theorem Condition.test_congr (source : Text) {first second : State} (agree : first.Agree second) :
    Condition.test source first = Condition.test source second :=
  test_eq_of_value_eq source (State.value_eq_of_agree agree)

end Knotwork
