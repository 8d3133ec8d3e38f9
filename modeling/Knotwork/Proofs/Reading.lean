import Knotwork.Proofs.Lists
import Knotwork.Proofs.Order
import Knotwork.Proofs.Text
import Knotwork.Script.Reader

/-! What a reader holds is sound after every line, a faulty one included: names that can stand in an
identity, conditions that can be read again, and choices with at most one destination. -/

namespace Knotwork

structure VariableName (name : Text) : Prop where
  nonempty : name ≠ []
  trimmed : name.trim = name
  unreserved : ∀ mark ∈ reservedMarks, mark ∉ name

structure StoredCondition (source : Text) : Prop where
  trimmed : source.trim = source
  readable : ∃ condition, Condition.read source = .ok condition

theorem storedCondition_nil : StoredCondition [] := ⟨rfl, _, rfl⟩

theorem checkName_eq_ok {grammar : Grammar} {source name checked : Text}
    (accepted : checkName grammar source name = .ok checked) :
    checked = name ∧ name ≠ [] ∧ ∀ mark ∈ reservedMarks, mark ∉ name := by
  unfold checkName at accepted
  split at accepted
  · cases accepted
  · rename_i nonempty
    split at accepted
    · rename_i unreserved
      cases accepted
      refine ⟨rfl, nonempty, fun mark reserved member => ?_⟩
      have absent := List.filter_eq_nil_iff.mp unreserved mark reserved
      exact absent (by simpa using member)
    · cases accepted

theorem variableName_of_checkName {grammar : Grammar} {source name checked : Text}
    (accepted : checkName grammar source name.trim = .ok checked) : VariableName checked := by
  obtain ⟨rfl, nonempty, unreserved⟩ := checkName_eq_ok accepted
  exact ⟨nonempty, Text.trim_trim name, unreserved⟩

theorem Change.variableName_of_read {source : Text} {change : Change}
    (accepted : Change.read source = .ok change) : VariableName change.name := by
  unfold Change.read at accepted
  split at accepted
  · cases accepted
  · split at accepted
    · cases accepted
    · split at accepted
      · cases accepted
      · rw [Except.bind_eq_ok] at accepted
        obtain ⟨checked, checkedName, accepted⟩ := accepted
        cases accepted
        exact variableName_of_checkName checkedName

theorem variableName_of_readChanges {sources : List Text} {changes : List Change}
    (accepted : readChanges sources = .ok changes) : ∀ change ∈ changes, VariableName change.name := by
  intro change member
  obtain ⟨source, _, read⟩ := mem_of_mapM_eq_ok accepted member
  exact Change.variableName_of_read read

theorem storedCondition_of_takeCondition {source condition rest : Text}
    (taken : takeCondition source = .ok (condition, rest)) : StoredCondition condition := by
  unfold takeCondition at taken
  split at taken
  · cases taken
    exact storedCondition_nil
  · split at taken
    · cases taken
    · split at taken
      · cases taken
      · rw [Except.bind_eq_ok] at taken
        obtain ⟨parsed, readable, taken⟩ := taken
        cases taken
        exact ⟨Text.trim_trim _, parsed, readable⟩

structure Arrow.Sound (arrow : Arrow) : Prop where
  single : arrow.target = none ∨ arrow.stitch = none
  target : ∀ name, arrow.target = some name → name ≠ [] ∧ name.trim = name ∧ name.head? ≠ some '.'
  stitch : ∀ name, arrow.stitch = some name → name.head? = some '.'

theorem sound_of_takeArrow {source rest : Text} {arrow : Arrow}
    (taken : takeArrow source = .ok (rest, arrow)) : arrow.Sound := by
  unfold takeArrow at taken
  split at taken
  · cases taken
    exact ⟨Or.inl rfl, by simp, by simp⟩
  · rename_i before after _
    split at taken
    · cases taken
    · cases taken
      exact ⟨Or.inl rfl, by simp, by simp⟩
    · rename_i nonempty unpointed
      cases taken
      refine ⟨Or.inr rfl, ?_, by simp⟩
      intro name same
      cases same
      refine ⟨nonempty, Text.trim_trim after, ?_⟩
      cases trimmed : after.trim with
      | nil => simp
      | cons c others =>
          intro pointed
          rw [List.head?_cons, Option.some.injEq] at pointed
          exact unpointed others (by rw [trimmed, pointed])

structure Choice.Sound (choice : Choice) : Prop where
  leads : (Arrow.mk choice.target choice.stitch).Sound
  filled : choice.text ≠ [] ∨ choice.target ≠ none ∨ choice.stitch ≠ none ∨ choice.changes ≠ []
  changes : ∀ change ∈ choice.changes, VariableName change.name
  condition : StoredCondition choice.condition

theorem Choice.sound_of_read {line : Text} {choice : Choice}
    (accepted : Choice.read line = .ok choice) : choice.Sound := by
  unfold Choice.read at accepted
  rw [Except.bind_eq_ok] at accepted
  obtain ⟨⟨rest, arrow⟩, arrowTaken, accepted⟩ := accepted
  rw [Except.bind_eq_ok] at accepted
  obtain ⟨changes, changesRead, accepted⟩ := accepted
  rw [Except.bind_eq_ok] at accepted
  obtain ⟨⟨condition, text⟩, conditionTaken, accepted⟩ := accepted
  dsimp only at accepted
  split at accepted
  · cases accepted
  · rename_i filled
    cases accepted
    refine ⟨sound_of_takeArrow arrowTaken, ?_, variableName_of_readChanges changesRead,
      storedCondition_of_takeCondition conditionTaken⟩
    simp only [Bool.and_eq_true, List.isEmpty_iff, Option.isNone_iff_eq_none, not_and_or] at filled
    tauto

structure KnotName (name : Text) : Prop where
  nonempty : name ≠ []
  trimmed : name.trim = name
  unbarred : '|' ∉ name

namespace KnotDraft

structure Sound (knot : KnotDraft) : Prop where
  name : KnotName knot.name
  blocks : ∀ block ∈ knot.blocks, StoredCondition block.condition
  choices : ∀ choice ∈ knot.choices, choice.Sound

@[simp] theorem blocks_close (knot : KnotDraft) : knot.close.blocks = knot.blocks := by
  simp [close, blocks]

@[simp] theorem blocks_start (knot : KnotDraft) (block : BlockDraft) :
    (knot.start block).blocks = knot.blocks ++ [block] := by
  simp [start, blocks]

theorem Sound.close {knot : KnotDraft} (sound : knot.Sound) : knot.close.Sound :=
  ⟨sound.name, by simpa using sound.blocks, sound.choices⟩

theorem Sound.start {knot : KnotDraft} (sound : knot.Sound) {block : BlockDraft}
    (condition : StoredCondition block.condition) : (knot.start block).Sound := by
  refine ⟨sound.name, ?_, sound.choices⟩
  intro other member
  rw [blocks_start, List.mem_append, List.mem_singleton] at member
  rcases member with earlier | rfl
  · exact sound.blocks other earlier
  · exact condition

theorem Sound.reopen {knot : KnotDraft} (sound : knot.Sound) {block changed : BlockDraft}
    (present : knot.opened = some block) (same : changed.condition = block.condition) :
    ({ knot with opened := some changed } : KnotDraft).Sound := by
  refine ⟨sound.name, ?_, sound.choices⟩
  intro other member
  simp only [KnotDraft.blocks, Option.toList_some, List.mem_append, List.mem_singleton] at member
  rcases member with earlier | rfl
  · exact sound.blocks other (by simp [KnotDraft.blocks, earlier])
  · rw [same]
    exact sound.blocks block (by simp [KnotDraft.blocks, present])

theorem Sound.pushBlank {knot : KnotDraft} (sound : knot.Sound) : knot.pushBlank.Sound := by
  cases present : knot.opened with
  | none =>
      have unchanged : knot.pushBlank.blocks = knot.blocks := by
        simp [KnotDraft.pushBlank, KnotDraft.blocks, present]
      exact ⟨sound.name, by rw [unchanged]; exact sound.blocks, sound.choices⟩
  | some block =>
      rw [KnotDraft.pushBlank, present]
      exact sound.reopen present rfl

theorem Sound.pushText {knot : KnotDraft} (sound : knot.Sound) (line : Text) :
    (knot.pushText line).Sound := by
  unfold KnotDraft.pushText
  split
  · rename_i block present
    exact sound.reopen present rfl
  · exact sound.start storedCondition_nil

theorem Sound.remark {knot : KnotDraft} (sound : knot.Sound) (content : Text) :
    (knot.remark content).Sound := by
  unfold KnotDraft.remark
  repeat' split
  all_goals exact ⟨sound.name, sound.blocks, sound.choices⟩

theorem BlockDraft.storedCondition_of_read {line : Text} {block : BlockDraft}
    (accepted : BlockDraft.read line = .ok block) : StoredCondition block.condition := by
  unfold BlockDraft.read at accepted
  rw [Except.bind_eq_ok] at accepted
  obtain ⟨⟨condition, rest⟩, taken, accepted⟩ := accepted
  cases accepted
  exact storedCondition_of_takeCondition taken

theorem Sound.feed {knot : KnotDraft} (sound : knot.Sound) (line : Text) :
    (knot.feed line).1.Sound := by
  unfold KnotDraft.feed
  split
  · exact sound.close.remark _
  · split
    · rename_i choice accepted
      refine ⟨sound.name, sound.close.blocks, ?_⟩
      intro other member
      rcases List.mem_append.mp member with earlier | added
      · exact sound.choices other earlier
      · rw [List.mem_singleton.mp added]
        exact Choice.sound_of_read accepted
    · exact sound.close
  · split
    · rename_i block accepted
      exact sound.start (BlockDraft.storedCondition_of_read accepted)
    · exact sound
  · split
    · exact ⟨sound.name, sound.close.blocks, sound.choices⟩
    · exact sound.pushText line

end KnotDraft

namespace Reader

structure Sound (reader : Reader) : Prop where
  declared : ∀ name ∈ reader.declared.globals ++ reader.declared.flags ++ reader.declared.locals,
    VariableName name
  knots : ∀ knot ∈ reader.knots, knot.Sound

theorem sound_empty : ({} : Reader).Sound := ⟨by simp, by simp [Reader.knots]⟩

theorem trimmed_of_mem_namesIn {list name : Text} (member : name ∈ namesIn list) :
    name.trim = name := by
  obtain ⟨piece, _, trimmed⟩ := List.mem_filterMap.mp member
  unfold Text.trim? at trimmed
  split at trimmed
  · cases trimmed
  · cases trimmed
    exact Text.trim_trim piece

theorem variableName_of_mem_checkNames {names : List Text}
    (trimmed : ∀ name ∈ names, name.trim = name) :
    ∀ name ∈ (checkNames names).1, VariableName name := by
  induction names with
  | nil => simp [checkNames]
  | cons first rest ih =>
      intro name member
      simp only [checkNames] at member
      split at member
      · rename_i checked accepted
        rcases List.mem_cons.mp member with rfl | later
        · rw [← trimmed first (by simp)] at accepted
          exact variableName_of_checkName accepted
        · exact ih (fun other present => trimmed other (by simp [present])) name later
      · simp at member

theorem mem_declare {declared : Declarations} {discipline : Discipline} {names : List Text}
    {name : Text}
    (member : name ∈ (declare declared discipline names).globals ++
      (declare declared discipline names).flags ++ (declare declared discipline names).locals) :
    name ∈ declared.globals ++ declared.flags ++ declared.locals ∨ name ∈ names := by
  cases discipline <;> simp only [declare, List.mem_append] at member ⊢ <;> tauto

theorem Sound.header {reader : Reader} (sound : reader.Sound) (content : Text) :
    (reader.header content).1.Sound := by
  unfold Reader.header
  split
  · exact sound
  · split
    · refine ⟨?_, sound.knots⟩
      intro name member
      rcases mem_declare member with earlier | added
      · exact sound.declared name earlier
      · exact variableName_of_mem_checkNames (fun _ => trimmed_of_mem_namesIn) name added
    · exact ⟨sound.declared, sound.knots⟩

theorem trimmed_of_knotName? {line name : Text} (found : knotName? line = some name) :
    name.trim = name := by
  unfold knotName? at found
  split at found
  · cases found
    exact Text.trim_trim _
  · cases found

theorem Sound.startKnot {reader : Reader} (sound : reader.Sound) {name : Text}
    (trimmed : name.trim = name) : (reader.startKnot name).1.Sound := by
  unfold Reader.startKnot
  split
  · exact sound
  · rename_i nonempty
    split
    · exact sound
    · rename_i unbarred
      split
      · exact sound
      · refine ⟨sound.declared, ?_⟩
        intro knot member
        simp only [Reader.knots, Option.toList_some] at member
        rcases List.mem_append.mp member with earlier | added
        · exact sound.knots knot earlier
        · rw [List.mem_singleton.mp added]
          refine ⟨⟨nonempty, trimmed, ?_⟩, by simp [KnotDraft.blocks], by simp⟩
          simpa using unbarred

theorem Sound.amend {reader : Reader} (sound : reader.Sound) {knot changed : KnotDraft}
    (present : reader.current = some knot) (sameName : changed.name = knot.name)
    (changedSound : changed.Sound) : (reader.amend knot changed present sameName).Sound := by
  refine ⟨sound.declared, ?_⟩
  intro other member
  simp only [Reader.amend, Reader.knots, Option.toList_some] at member
  rcases List.mem_append.mp member with earlier | last
  · exact sound.knots other (by simp [Reader.knots, earlier])
  · rw [List.mem_singleton.mp last]
    exact changedSound

theorem Sound.feed {reader : Reader} (sound : reader.Sound) (line : Text) :
    (reader.feed line).1.Sound := by
  unfold Reader.feed
  dsimp only
  split
  · split
    · exact sound.header _
    · split
      · rename_i found
        exact sound.startKnot (trimmed_of_knotName? found)
      · exact sound
  · rename_i knot present
    have knotSound : knot.Sound := sound.knots knot (by simp [Reader.knots, present])
    split
    · have sameName : knot.pushBlank.name = knot.name := rfl
      exact sound.amend present sameName knotSound.pushBlank
    · split
      · rename_i found
        exact sound.startKnot (trimmed_of_knotName? found)
      · exact sound.amend present (KnotDraft.name_feed knot _) (knotSound.feed _)

theorem Sound.readFrom {reader : Reader} (sound : reader.Sound) {number : Nat} {lines : List Text}
    {result : Reader} (read : reader.readFrom number lines = .ok result) : result.Sound := by
  induction lines generalizing reader number with
  | nil =>
      cases read
      exact sound
  | cons line rest ih =>
      have next := sound.feed line
      unfold Reader.readFrom at read
      split at read
      · rename_i fed
        rw [fed] at next
        exact ih next read
      · cases read

end Reader

structure Knot.Sound (knot : Knot) : Prop where
  name : KnotName knot.name
  body : ∀ block ∈ knot.body, StoredCondition block.condition
  choices : ∀ choice ∈ knot.choices, choice.Sound

structure Script.Sound (script : Script) : Prop where
  declared : ∀ name ∈ script.declarations.names, VariableName name
  knots : ∀ knot ∈ script.knots, knot.Sound

theorem Reader.Sound.toScript {reader : Reader} (sound : reader.Sound) : reader.toScript.Sound := by
  constructor
  · intro name member
    apply sound.declared name
    simpa [Declarations.names, Reader.toScript] using member
  · intro knot member
    obtain ⟨draft, present, rfl⟩ := List.mem_map.mp member
    have draftSound := sound.knots draft present
    refine ⟨draftSound.name, ?_, draftSound.choices⟩
    intro block blockMember
    obtain ⟨written, writtenMember, rfl⟩ := List.mem_map.mp blockMember
    exact draftSound.blocks written writtenMember

theorem Script.sound_of_read {source : Text} {script : Script}
    (read : Script.read source = .ok script) : script.Sound := by
  unfold Script.read at read
  rw [Except.bind_eq_ok] at read
  obtain ⟨reader, finished, read⟩ := read
  cases read
  exact (Reader.sound_empty.readFrom finished).toScript

end Knotwork
