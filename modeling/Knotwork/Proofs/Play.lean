import Knotwork.Proofs.Identity
import Knotwork.Proofs.Reading
import Knotwork.Proofs.State
import Knotwork.Story.Explore
import Knotwork.Story.Play

/-! Where a reader can come to, told step by step, and what holds of the variables on the way. -/

namespace Knotwork

namespace Script

inductive Reachable (script : Script) (entry : Text) : Position → Prop
  | start {position} : script.start? entry = some position → Reachable script entry position
  | follow {position next choice} : Reachable script entry position →
      choice ∈ position.options → script.follow? position choice = some next →
      Reachable script entry next

theorem play?_append (script : Script) (position : Position) (first second : List Nat) :
    script.play? position (first ++ second) =
      (script.play? position first).bind (script.play? · second) := by
  induction first generalizing position with
  | nil => rfl
  | cons number rest ih =>
      simp only [List.cons_append, play?]
      cases script.step? position number with
      | none => rfl
      | some next => exact ih next

theorem reachable_of_play? {script : Script} {entry : Text} {position next : Position}
    (reachable : script.Reachable entry position) {numbers : List Nat}
    (played : script.play? position numbers = some next) : script.Reachable entry next := by
  induction numbers generalizing position with
  | nil =>
      cases played
      exact reachable
  | cons number rest ih =>
      simp only [play?, Option.bind_eq_bind, Option.bind_eq_some_iff] at played
      obtain ⟨middle, stepped, played⟩ := played
      simp only [step?, Option.bind_eq_bind, Option.bind_eq_some_iff] at stepped
      obtain ⟨choice, offered, followed⟩ := stepped
      exact ih (reachable.follow (List.mem_of_getElem? offered) followed) played

theorem reachable_iff_play? (script : Script) (entry : Text) (position : Position) :
    script.Reachable entry position ↔
      ∃ start, script.start? entry = some start ∧
        ∃ numbers, script.play? start numbers = some position := by
  constructor
  · intro reachable
    induction reachable with
    | start begins => exact ⟨_, begins, [], rfl⟩
    | follow _ offered followed ih =>
        obtain ⟨start, begins, numbers, played⟩ := ih
        obtain ⟨number, numbered⟩ := List.mem_iff_getElem?.mp offered
        refine ⟨start, begins, numbers ++ [number], ?_⟩
        simp [play?_append, played, play?, step?, numbered, followed]
  · rintro ⟨start, begins, numbers, played⟩
    exact reachable_of_play? (Reachable.start begins) played

theorem knot?_eq_some {script : Script} {name : Text} {knot : Knot}
    (found : script.knot? name = some knot) : knot ∈ script.knots ∧ knot.name = name := by
  refine ⟨List.mem_of_find?_eq_some found, ?_⟩
  simpa using List.find?_some found

theorem knot?_eq_some_iff {script : Script} {name : Text} {knot : Knot} :
    script.knot? name = some knot ↔ knot ∈ script.knots ∧ knot.name = name := by
  constructor
  · exact knot?_eq_some
  · rintro ⟨member, rfl⟩
    cases found : script.knot? knot.name with
    | none => simpa using List.find?_eq_none.mp found knot member
    | some other =>
        obtain ⟨otherMember, same⟩ := knot?_eq_some found
        rw [List.inj_on_of_nodup_map script.distinct otherMember member same]

theorem knot?_eq_none {script : Script} {name : Text} :
    script.knot? name = none ↔ name ∉ script.knotNames := by
  simp [knot?, knotNames, List.find?_eq_none]

theorem start?_eq_some {script : Script} {entry : Text} {position : Position} :
    script.start? entry = some position ↔
      script.knot? entry = some position.knot ∧
        position.state = State.initial script.declarations := by
  obtain ⟨knot, state⟩ := position
  simp [start?, eq_comm]

theorem follow?_eq_some {script : Script} {position next : Position} {choice : Choice} :
    script.follow? position choice = some next ↔
      ∃ name, choice.destination? position.knot.name = some name ∧
        script.knot? name = some next.knot ∧
        next.state = script.arrive position.knot.scene next.knot.scene
          (position.state.apply script.declarations choice.changes) := by
  obtain ⟨knot, state⟩ := next
  simp only [follow?, Option.bind_eq_bind, Option.bind_eq_some_iff, Option.pure_def,
    Option.some.injEq, Position.mk.injEq]
  constructor
  · rintro ⟨name, destination, target, found, rfl, rfl⟩
    exact ⟨name, destination, found, rfl⟩
  · rintro ⟨name, destination, found, rfl⟩
    exact ⟨name, destination, knot, found, rfl, rfl⟩

theorem Reachable.found {script : Script} {entry : Text} {position : Position}
    (reachable : script.Reachable entry position) :
    script.knot? position.knot.name = some position.knot := by
  have found : ∃ name, script.knot? name = some position.knot := by
    cases reachable with
    | start begins => exact ⟨entry, (start?_eq_some.mp begins).1⟩
    | follow _ _ followed =>
        obtain ⟨name, _, found, _⟩ := follow?_eq_some.mp followed
        exact ⟨name, found⟩
  obtain ⟨name, found⟩ := found
  rw [(knot?_eq_some found).2]
  exact found

section Arrival

variable (script : Script) (fromScene toScene : Text)

theorem agree_arrive {first second : State} (agree : first.Agree second) :
    (script.arrive fromScene toScene first).Agree (script.arrive fromScene toScene second) := by
  unfold Script.arrive
  split
  · exact agree
  · exact State.agree_purge agree _

theorem value_arrive_eq {first second : State} (values : first.value = second.value) :
    (script.arrive fromScene toScene first).value =
      (script.arrive fromScene toScene second).value := by
  unfold Script.arrive
  split
  · exact values
  · exact State.value_purge_eq values _

theorem mem_keys_arrive (state : State) (name : Text) :
    name ∈ (script.arrive fromScene toScene state).keys ↔
      name ∈ state.keys ∨
        fromScene ≠ toScene ∧ name ∈ script.declarations.namesUnder .sceneLocal := by
  unfold arrive
  split
  · rename_i same
    simp [same]
  · rename_i different
    rw [State.mem_keys_purge]
    simp only [ne_eq, different, not_false_eq_true, true_and]
    exact or_comm

theorem find?_arrive (state : State) (name : Text) :
    (script.arrive fromScene toScene state).find? name =
      if fromScene ≠ toScene ∧ name ∈ script.declarations.namesUnder .sceneLocal then some false
      else state.find? name := by
  unfold arrive
  by_cases same : fromScene = toScene
  · simp [same]
  · simp only [same, if_false, State.find?_purge, ne_eq, not_false_eq_true, true_and]

end Arrival

def assigned (script : Script) : List Text :=
  script.knots.flatMap fun knot => knot.choices.flatMap fun choice => choice.changes.map Change.name

theorem mem_assigned {script : Script} {knot : Knot} (knotMember : knot ∈ script.knots)
    {choice : Choice} (choiceMember : choice ∈ knot.choices) {name : Text}
    (named : name ∈ choice.changes.map Change.name) : name ∈ script.assigned :=
  List.mem_flatMap.mpr ⟨knot, knotMember, List.mem_flatMap.mpr ⟨choice, choiceMember, named⟩⟩

theorem mem_keys_follow {script : Script} {position next : Position} {choice : Choice}
    (followed : script.follow? position choice = some next) {name : Text}
    (member : name ∈ position.state.keys) : name ∈ next.state.keys := by
  obtain ⟨_, _, _, arrived⟩ := follow?_eq_some.mp followed
  rw [arrived, mem_keys_arrive]
  exact Or.inl (State.mem_keys_apply _ _ member)

theorem mem_keys_of_follow {script : Script} {position next : Position} {choice : Choice}
    (followed : script.follow? position choice = some next) {name : Text}
    (member : name ∈ next.state.keys) :
    name ∈ position.state.keys ∨ name ∈ choice.changes.map Change.name ∨
      name ∈ script.declarations.names := by
  obtain ⟨_, _, _, arrived⟩ := follow?_eq_some.mp followed
  rw [arrived, mem_keys_arrive] at member
  rcases member with changed | ⟨_, purged⟩
  · rcases State.mem_keys_of_mem_keys_apply _ changed with earlier | named
    · exact Or.inl earlier
    · exact Or.inr (Or.inl named)
  · exact Or.inr (Or.inr (script.declarations.declared_of_local purged))

theorem Reachable.complete {script : Script} {entry : Text} {position : Position}
    (reachable : script.Reachable entry position) {name : Text}
    (declared : name ∈ script.declarations.names) : name ∈ position.state.keys := by
  induction reachable with
  | start begins =>
      rw [(start?_eq_some.mp begins).2, Table.mem_keys_iff, State.find?_initial, if_pos declared]
      rfl
  | follow _ _ followed ih => exact mem_keys_follow followed ih

theorem Reachable.named {script : Script} {entry : Text} {position : Position}
    (reachable : script.Reachable entry position) {name : Text}
    (member : name ∈ position.state.keys) :
    name ∈ script.declarations.names ∨ name ∈ script.assigned := by
  induction reachable with
  | start begins =>
      rw [(start?_eq_some.mp begins).2, Table.mem_keys_iff, State.find?_initial] at member
      split at member
      · rename_i declared
        exact Or.inl declared
      · simp at member
  | follow before offered followed ih =>
      rcases mem_keys_of_follow followed member with earlier | changed | declared
      · exact ih earlier
      · have knotMember := (knot?_eq_some before.found).1
        exact Or.inr (mem_assigned knotMember (List.mem_filter.mp offered).1 changed)
      · exact Or.inl declared

structure Plain (script : Script) : Prop where
  knots : ∀ knot ∈ script.knots, '|' ∉ knot.name
  names : ∀ name ∈ script.declarations.names ++ script.assigned, '=' ∉ name ∧ ',' ∉ name

theorem Sound.plain {script : Script} (sound : script.Sound) : script.Plain := by
  have unmarked {name : Text} (sound : VariableName name) : '=' ∉ name ∧ ',' ∉ name :=
    ⟨sound.unreserved '=' (by decide), sound.unreserved ',' (by decide)⟩
  constructor
  · intro knot member
    exact (sound.knots knot member).name.unbarred
  · intro name member
    rcases List.mem_append.mp member with declared | assigned
    · exact unmarked (sound.declared name declared)
    · obtain ⟨knot, knotMember, assigned⟩ := List.mem_flatMap.mp assigned
      obtain ⟨choice, choiceMember, assigned⟩ := List.mem_flatMap.mp assigned
      obtain ⟨change, changeMember, rfl⟩ := List.mem_map.mp assigned
      have choiceSound := (sound.knots knot knotMember).choices choice choiceMember
      exact unmarked (choiceSound.changes change changeMember)

theorem Reachable.plain {script : Script} (plain : script.Plain) {entry : Text}
    {position : Position} (reachable : script.Reachable entry position) : position.state.Plain := by
  intro name member
  exact plain.names name (List.mem_append.mpr (reachable.named member))

theorem Reachable.unbarred {script : Script} (plain : script.Plain) {entry : Text}
    {position : Position} (reachable : script.Reachable entry position) :
    '|' ∉ position.knot.name :=
  plain.knots position.knot (knot?_eq_some reachable.found).1

section Following

variable {script : Script} {source target : Position} {choice : Choice} {name : Text}

theorem find?_follow_of_unbound (followed : script.follow? source choice = some target)
    (notFlag : name ∉ script.declarations.flags) (notLocal : name ∉ script.declarations.locals) :
    target.state.find? name =
      (Change.assignments choice.changes name).getLast?.or (source.state.find? name) := by
  obtain ⟨_, _, _, arrived⟩ := follow?_eq_some.mp followed
  have free := script.declarations.isFlag_eq_false notFlag
  rw [arrived, find?_arrive, if_neg, State.find?_apply_of_not_flag _ _ _ free]
  rw [Declarations.mem_locals]
  exact fun purged => notLocal purged.2.2

theorem find?_follow_of_local (followed : script.follow? source choice = some target)
    (notFlag : name ∉ script.declarations.flags) (sceneLocal : name ∈ script.declarations.locals) :
    target.state.find? name =
      if source.knot.scene ≠ target.knot.scene then some false
      else (Change.assignments choice.changes name).getLast?.or (source.state.find? name) := by
  obtain ⟨_, _, _, arrived⟩ := follow?_eq_some.mp followed
  have free := script.declarations.isFlag_eq_false notFlag
  have purgeable := (script.declarations.mem_locals name).mpr ⟨notFlag, sceneLocal⟩
  rw [arrived, find?_arrive, State.find?_apply_of_not_flag _ _ _ free]
  simp only [purgeable, and_true]

theorem flag_follow_iff (followed : script.follow? source choice = some target)
    (flag : name ∈ script.declarations.flags) :
    target.state.value name = true ↔
      source.state.value name = true ∨ true ∈ Change.assignments choice.changes name := by
  obtain ⟨_, _, _, arrived⟩ := follow?_eq_some.mp followed
  rw [← State.flag_apply_iff _ _ _ ((script.declarations.isFlag_iff name).mpr flag), arrived,
    State.value, find?_arrive, if_neg]
  · rfl
  · rw [Declarations.mem_locals]
    exact fun purged => purged.2.1 flag

theorem flag_follow (followed : script.follow? source choice = some target)
    (flag : name ∈ script.declarations.namesUnder .flag) (set : source.state.value name = true) :
    target.state.value name = true :=
  (flag_follow_iff followed ((script.declarations.mem_flags name).mp flag)).mpr (Or.inl set)

theorem local_follow (followed : script.follow? source choice = some target)
    (different : source.knot.scene ≠ target.knot.scene)
    (sceneLocal : name ∈ script.declarations.namesUnder .sceneLocal) :
    target.state.value name = false := by
  obtain ⟨notFlag, listed⟩ := (script.declarations.mem_locals name).mp sceneLocal
  rw [State.value, find?_follow_of_local followed notFlag listed, if_pos different]
  rfl

end Following

end Script

namespace Position

theorem allows_iff (position : Position) (condition : Text) :
    position.allows condition = true ↔ Condition.test condition position.state = .ok true := by
  unfold allows Condition.test
  cases Condition.read condition <;> simp [bind, Except.bind, pure, Except.pure]

/-- Positions at one knot where every variable has the same value, though it may be false in one and
not have come up in the other. A reader cannot tell them apart. -/
structure Indistinct (first second : Position) : Prop where
  knot : first.knot = second.knot
  values : first.state.value = second.state.value

namespace Indistinct

variable {script : Script} {first second third next : Position}

theorem symm (here : first.Indistinct second) : second.Indistinct first :=
  ⟨here.knot.symm, here.values.symm⟩

theorem trans (here : first.Indistinct second) (there : second.Indistinct third) :
    first.Indistinct third :=
  ⟨here.knot.trans there.knot, here.values.trans there.values⟩

theorem allows (here : first.Indistinct second) (condition : Text) :
    first.allows condition = second.allows condition := by
  rw [Bool.eq_iff_iff, allows_iff, allows_iff,
    Condition.test_eq_of_value_eq condition here.values]

theorem shown (here : first.Indistinct second) : first.shown = second.shown := by
  simp only [Position.shown, here.knot, here.allows]

theorem options (here : first.Indistinct second) : first.options = second.options := by
  simp only [Position.options, here.knot, here.allows]

theorem follow (here : first.Indistinct second) {choice : Choice}
    (followed : script.follow? first choice = some next) :
    ∃ other, script.follow? second choice = some other ∧ next.Indistinct other := by
  obtain ⟨name, destination, found, arrived⟩ := Script.follow?_eq_some.mp followed
  rw [here.knot] at destination arrived
  let state := script.arrive second.knot.scene next.knot.scene
    (second.state.apply script.declarations choice.changes)
  have other : script.follow? second choice = some ⟨next.knot, state⟩ :=
    Script.follow?_eq_some.mpr ⟨name, destination, found, rfl⟩
  refine ⟨⟨next.knot, state⟩, other, rfl, ?_⟩
  rw [arrived]
  exact Script.value_arrive_eq _ _ _ (State.value_apply_eq _ here.values _)

end Indistinct

structure Alike (first second : Position) : Prop where
  knot : first.knot = second.knot
  state : first.state.Agree second.state

theorem Alike.trans {first second third : Position} (here : first.Alike second)
    (there : second.Alike third) : first.Alike third :=
  ⟨here.knot.trans there.knot, here.state.trans there.state⟩

theorem Alike.indistinct {first second : Position} (alike : first.Alike second) :
    first.Indistinct second :=
  ⟨alike.knot, State.value_eq_of_agree alike.state⟩

theorem Alike.shown {first second : Position} (alike : first.Alike second) :
    first.shown = second.shown :=
  alike.indistinct.shown

theorem Alike.options {first second : Position} (alike : first.Alike second) :
    first.options = second.options :=
  alike.indistinct.options

theorem Alike.follow {script : Script} {first second next : Position} (alike : first.Alike second)
    {choice : Choice} (followed : script.follow? first choice = some next) :
    ∃ other, script.follow? second choice = some other ∧ next.Alike other := by
  obtain ⟨name, destination, found, arrived⟩ := Script.follow?_eq_some.mp followed
  rw [alike.knot] at destination arrived
  let state := script.arrive second.knot.scene next.knot.scene
    (second.state.apply script.declarations choice.changes)
  have other : script.follow? second choice = some ⟨next.knot, state⟩ :=
    Script.follow?_eq_some.mpr ⟨name, destination, found, rfl⟩
  refine ⟨⟨next.knot, state⟩, other, rfl, ?_⟩
  rw [arrived]
  exact Script.agree_arrive _ _ _ (State.agree_apply _ alike.state _)

end Position

end Knotwork
