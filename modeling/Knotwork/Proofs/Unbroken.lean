import Knotwork.Proofs.Feeding
import Knotwork.Proofs.Replacing

/-! What is read from one line has no line break in it: the names of knots, and the texts of choices. -/

namespace Knotwork

namespace Text

def Unbroken (t : Text) : Prop := ∀ c ∈ t, isLineBreak c = false

instance (t : Text) : Decidable t.Unbroken :=
  decidable_of_iff (t.all fun c => !isLineBreak c) (by simp [Unbroken])

theorem unbroken_nil : Unbroken [] := by simp [Unbroken]

theorem Unbroken.of_subset {t part : Text} (unbroken : t.Unbroken) (within : part ⊆ t) :
    part.Unbroken :=
  fun c member => unbroken c (within member)

theorem Unbroken.newline {t : Text} (unbroken : t.Unbroken) : '\n' ∉ t := by
  intro member
  have kept := unbroken _ member
  simp [isLineBreak] at kept

theorem unbroken_of_mem_lines {t line : Text} (member : line ∈ lines t) : line.Unbroken := by
  induction t generalizing line with
  | nil => simp [lines] at member
  | cons c rest ih =>
      rw [lines_cons] at member
      split at member
      · exact ih member
      · split at member
        · rcases List.mem_cons.mp member with rfl | later
          · exact unbroken_nil
          · exact ih later
        · rename_i _ unbreaking
          have first : Unbroken [c] := by simpa [Unbroken] using unbreaking
          cases others : lines rest with
          | nil =>
              rw [others] at member
              rw [List.mem_singleton.mp member]
              exact first
          | cons head tail =>
              rw [others] at ih member
              rcases List.mem_cons.mp member with rfl | later
              · exact List.forall_mem_append.mpr ⟨first, ih (by simp)⟩
              · exact ih (by simp [later])

theorem trim_subset (t : Text) : trim t ⊆ t := by
  have started : trimStart t ⊆ t := (List.dropWhile_suffix isBlank).subset
  have ended : trim t <+: trimStart t := trimEnd_prefix (trimStart t)
  exact List.Subset.trans ended.subset started

theorem cut?_subset {mark t before after : Text} (found : cut? mark t = some (before, after)) :
    before ⊆ t ∧ after ⊆ t := by
  induction t generalizing before with
  | nil => simp [cut?] at found
  | cons c rest ih =>
      unfold cut? at found
      split at found
      · rename_i suffix marked
        cases found
        have split := List.isPrefixOf?_eq_some_iff_append_eq.mp marked
        rw [← split]
        exact ⟨List.nil_subset _, List.subset_append_right _ _⟩
      · obtain ⟨⟨front, back⟩, later, same⟩ := Option.map_eq_some_iff.mp found
        cases same
        obtain ⟨frontWithin, backWithin⟩ := ih later
        exact ⟨List.cons_subset_cons c frontWithin, List.subset_cons_of_subset c backWithin⟩

theorem dropMark_subset (mark t : Text) : dropMark mark t ⊆ t := by
  unfold dropMark
  cases marked : mark.isPrefixOf? t with
  | none => exact List.Subset.refl t
  | some after =>
      rw [← List.isPrefixOf?_eq_some_iff_append_eq.mp marked]
      exact List.subset_append_right _ _

theorem subset_joinWith (separator : Text) {pieces : List Text} {piece : Text}
    (member : piece ∈ pieces) : piece ⊆ joinWith separator pieces := by
  induction pieces with
  | nil => simp at member
  | cons first rest ih =>
      cases rest with
      | nil =>
          rw [List.mem_singleton.mp member]
          exact List.Subset.refl first
      | cons next others =>
          rw [joinWith]
          rcases List.mem_cons.mp member with rfl | later
          · exact fun _ inside => by simp [inside]
          · exact fun _ inside => List.mem_append_right _ (ih later inside)

theorem headD_splitOn_subset (mark : Char) (t : Text) : (splitOn [mark] t).headD [] ⊆ t := by
  obtain ⟨first, rest, pieces⟩ := List.exists_cons_of_ne_nil (splitOn_ne_nil [mark] t)
  have within : first ⊆ joinWith [mark] (splitOn [mark] t) :=
    subset_joinWith [mark] (by simp [pieces])
  rw [joinWith_splitOn] at within
  rwa [pieces]

end Text

theorem rest_subset_of_takeCondition {source condition rest : Text}
    (taken : takeCondition source = .ok (condition, rest)) : rest ⊆ source := by
  unfold takeCondition at taken
  split at taken
  · cases taken
    exact List.Subset.refl source
  · rename_i opened
    split at taken
    · cases taken
    · split at taken
      · cases taken
      · rename_i closed
        rw [Except.bind_eq_ok] at taken
        obtain ⟨_, _, taken⟩ := taken
        cases taken
        obtain ⟨beforeWithin, insideWithin⟩ := Text.cut?_subset opened
        obtain ⟨_, afterWithin⟩ := Text.cut?_subset closed
        exact List.append_subset.mpr ⟨beforeWithin, List.Subset.trans afterWithin insideWithin⟩

theorem rest_subset_of_takeArrow {source rest : Text} {arrow : Arrow}
    (taken : takeArrow source = .ok (rest, arrow)) : rest ⊆ source := by
  unfold takeArrow at taken
  split at taken
  · cases taken
    exact List.Subset.refl source
  · rename_i found
    obtain ⟨beforeWithin, _⟩ := Text.cut?_subset found
    split at taken
    · cases taken
    · cases taken
      exact beforeWithin
    · cases taken
      exact beforeWithin

theorem Choice.text_subset_of_read {line : Text} {choice : Choice}
    (accepted : Choice.read line = .ok choice) : choice.text ⊆ line := by
  unfold Choice.read at accepted
  rw [Except.bind_eq_ok] at accepted
  obtain ⟨⟨rest, arrow⟩, arrowTaken, accepted⟩ := accepted
  rw [Except.bind_eq_ok] at accepted
  obtain ⟨changes, changesRead, accepted⟩ := accepted
  rw [Except.bind_eq_ok] at accepted
  obtain ⟨⟨condition, text⟩, conditionTaken, accepted⟩ := accepted
  dsimp only at accepted conditionTaken
  split at accepted
  · cases accepted
  · cases accepted
    have remainder : text ⊆ rest :=
      List.Subset.trans (rest_subset_of_takeCondition conditionTaken)
        (Text.headD_splitOn_subset '~' rest)
    have arrowless : rest ⊆ line := by
      refine List.Subset.trans (rest_subset_of_takeArrow arrowTaken) ?_
      refine List.Subset.trans (Text.trim_subset _) ?_
      exact List.Subset.trans (Text.dropMark_subset _ _) (Text.trim_subset line)
    exact List.Subset.trans (Text.trim_subset text) (List.Subset.trans remainder arrowless)

namespace KnotDraft

structure Unbroken (knot : KnotDraft) : Prop where
  name : knot.name.Unbroken
  choices : ∀ choice ∈ knot.choices, choice.text.Unbroken

@[simp] theorem choices_remark (knot : KnotDraft) (content : Text) :
    (knot.remark content).choices = knot.choices := by
  unfold remark
  repeat' split
  all_goals rfl

@[simp] theorem choices_pushText (knot : KnotDraft) (line : Text) :
    (knot.pushText line).choices = knot.choices := by
  unfold pushText
  split <;> rfl

theorem mem_choices_feed {knot : KnotDraft} {line : Text} {choice : Choice}
    (member : choice ∈ (knot.feed line).1.choices) :
    choice ∈ knot.choices ∨ Choice.read line = .ok choice := by
  unfold feed at member
  split at member
  · exact Or.inl (by simpa [close] using member)
  · split at member
    · rename_i added accepted
      rcases List.mem_append.mp member with earlier | last
      · exact Or.inl earlier
      · rw [List.mem_singleton.mp last]
        exact Or.inr accepted
    · exact Or.inl member
  · split at member
    · exact Or.inl member
    · exact Or.inl member
  · split at member
    · exact Or.inl member
    · exact Or.inl (by simpa using member)

theorem Unbroken.next {knot : KnotDraft} (unbroken : knot.Unbroken) {line : Text}
    (single : line.Unbroken) : (knot.next line).1.Unbroken := by
  refine ⟨by rw [name_next]; exact unbroken.name, ?_⟩
  intro choice member
  unfold KnotDraft.next at member
  split at member
  · exact unbroken.choices choice member
  · rcases mem_choices_feed member with earlier | accepted
    · exact unbroken.choices choice earlier
    · have within :=
        List.Subset.trans (Choice.text_subset_of_read accepted) (Text.trim_subset line)
      exact single.of_subset within

end KnotDraft

namespace Reader

def Unbroken (reader : Reader) : Prop := ∀ knot ∈ reader.knots, knot.Unbroken

theorem unbroken_empty : ({} : Reader).Unbroken := by simp [Unbroken, Reader.knots]

theorem name_subset_of_knotName? {line name : Text} (found : knotName? line = some name) :
    name ⊆ line := by
  obtain ⟨_, _, rfl⟩ := knotName?_eq_some.mp found
  refine List.Subset.trans (Text.trim_subset _) ?_
  exact List.Subset.trans (List.take_subset _ _) (List.drop_subset _ _)

theorem Unbroken.startKnot {reader : Reader} (unbroken : reader.Unbroken) {name : Text}
    (single : name.Unbroken) : (reader.startKnot name).1.Unbroken := by
  cases failing : (reader.startKnot name).2 with
  | some fault =>
      rw [startKnot_of_fault failing]
      exact unbroken
  | none =>
      obtain ⟨_, _, earlier, current⟩ := startKnot_of_clear failing
      intro knot member
      rw [knots_of_current current, earlier] at member
      rcases List.mem_append.mp member with old | new
      · exact unbroken knot old
      · rw [List.mem_singleton.mp new]
        exact ⟨single, by simp⟩

theorem Unbroken.feed {reader : Reader} (unbroken : reader.Unbroken) {line : Text}
    (single : line.Unbroken) : (reader.feed line).1.Unbroken := by
  cases heading : knotName? line.trim with
  | some name =>
      rw [feed_heading reader heading]
      have within :=
        List.Subset.trans (name_subset_of_knotName? heading) (Text.trim_subset line)
      exact unbroken.startKnot (single.of_subset within)
  | none =>
      intro other member
      cases present : reader.current with
      | none =>
          obtain ⟨earlier, current⟩ := feed_before present heading
          rw [knots, earlier, current, ← present] at member
          exact unbroken other member
      | some knot =>
          obtain ⟨_, _, _, earlier, current⟩ := feed_within present heading
          rw [knots_of_current current, earlier] at member
          rcases List.mem_append.mp member with old | last
          · exact unbroken other (by simp [knots, old])
          · rw [List.mem_singleton.mp last]
            exact (unbroken knot (by simp [knots, present])).next single

theorem Unbroken.readFrom {reader : Reader} (unbroken : reader.Unbroken) {number : Nat}
    {lines : List Text} (single : ∀ line ∈ lines, line.Unbroken) {result : Reader}
    (read : reader.readFrom number lines = .ok result) : result.Unbroken := by
  induction lines generalizing reader number with
  | nil =>
      cases read
      exact unbroken
  | cons line rest ih =>
      have next := unbroken.feed (single line (by simp))
      unfold Reader.readFrom at read
      split at read
      · rename_i fed
        rw [fed] at next
        exact ih next (fun other member => single other (by simp [member])) read
      · cases read

end Reader

structure Script.Unbroken (script : Script) : Prop where
  names : ∀ knot ∈ script.knots, knot.name.Unbroken
  choices : ∀ knot ∈ script.knots, ∀ choice ∈ knot.choices, choice.text.Unbroken

theorem Script.unbroken_of_read {source : Text} {script : Script}
    (read : Script.read source = .ok script) : script.Unbroken := by
  unfold Script.read at read
  rw [Except.bind_eq_ok] at read
  obtain ⟨reader, finished, read⟩ := read
  cases read
  have unbroken := Reader.unbroken_empty.readFrom (fun _ => Text.unbroken_of_mem_lines) finished
  constructor
  · intro knot member
    obtain ⟨draft, present, rfl⟩ := List.mem_map.mp member
    exact (unbroken draft present).name
  · intro knot member
    obtain ⟨draft, present, rfl⟩ := List.mem_map.mp member
    exact (unbroken draft present).choices

end Knotwork
