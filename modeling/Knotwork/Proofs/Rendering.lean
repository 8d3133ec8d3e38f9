import Knotwork.Proofs.Choices
import Knotwork.Proofs.Unbroken

/-! Conditions and changes that are read, rendered and read again. Main statement: whatever was read
from a text is read from its rendering too, and a condition or change is read from its rendering
exactly if its names can be written. -/

namespace Knotwork

namespace Comparison

theorem render_eq (comparison : Comparison) :
    comparison.render = comparison.name ++
      ' ' :: (sign comparison.negated ++ ' ' :: Text.ofBool comparison.expected) := by
  cases negated : comparison.negated <;> simp [render, sign, negated]

theorem spells_render {comparison : Comparison} (named : VariableName comparison.name)
    {lead tail : Text} (leadBlank : lead.Blank) (tailBlank : tail.Blank) :
    Spells (lead ++ comparison.render ++ tail) comparison := by
  refine ⟨{ lead, name := comparison.name, gap := [' '], negated := comparison.negated,
            space := [' '], expected := comparison.expected, tail, leadBlank,
            gapBlank := by decide, spaceBlank := by decide, tailBlank, named,
            distinct := by simp }, ?_, rfl⟩
  simp [Layout.text, render_eq]

theorem conjunction_not_infix_render {comparison : Comparison}
    (absent : ¬['&', '&'] <:+: comparison.name) : ¬['&', '&'] <:+: comparison.render := by
  have sign : ¬['&', '&'] <:+: sign comparison.negated := by cases comparison.negated <;> decide
  have word : ¬['&', '&'] <:+: Text.ofBool comparison.expected := by
    cases comparison.expected <;> decide
  simp [render_eq, Text.pair_infix_append_cons, absent, sign, word]

theorem Spells.named {piece : Text} {comparison : Comparison} (spells : Spells piece comparison) :
    VariableName comparison.name := by
  obtain ⟨layout, _, rfl⟩ := spells
  exact layout.named

theorem Spells.name_within {piece : Text} {comparison : Comparison}
    (spells : Spells piece comparison) : comparison.name <:+: piece := by
  obtain ⟨layout, rfl, rfl⟩ := spells
  exact ⟨layout.lead, layout.gap ++ Comparison.sign layout.negated ++ layout.space ++
    Text.ofBool layout.expected ++ layout.tail, by simp [Layout.text, Layout.comparison]⟩

end Comparison

namespace Condition

def Writable (condition : Condition) : Prop :=
  ∀ comparison ∈ condition.comparisons,
    VariableName comparison.name ∧ ¬['&', '&'] <:+: comparison.name

-- A rendering is cut from the left, and the blank that follows a sign of conjunction leads the next
-- piece: hence the induction is over the comparisons, with any blanks before them.
theorem exists_pieces_render {comparisons : List Comparison} (filled : comparisons ≠ [])
    (writable : Writable ⟨comparisons⟩) {lead : Text} (blank : lead.Blank) :
    ∃ pieces,
      Text.Cuts ['&', '&'] (lead ++ Text.joinWith " && " (comparisons.map Comparison.render)) pieces ∧
        List.Forall₂ Comparison.Spells pieces comparisons := by
  induction comparisons generalizing lead with
  | nil => exact absurd rfl filled
  | cons comparison rest ih =>
      obtain ⟨⟨named, absent⟩, others⟩ := List.forall_mem_cons.mp writable
      have unmarked : '&' ∉ lead := blank.not_mem (by decide)
      have clear : ¬['&', '&'] <:+: lead ++ comparison.render := by
        rw [Text.pair_infix_append_of_not_mem unmarked]
        exact Comparison.conjunction_not_infix_render absent
      cases rest with
      | nil =>
          have spells := Comparison.spells_render named blank Text.blank_nil
          rw [List.append_nil] at spells
          exact ⟨_, .whole clear, .cons spells .nil⟩
      | cons next more =>
          have space : Text.Blank [' '] := by decide
          obtain ⟨pieces, cuts, spelled⟩ := ih (by simp) others space
          have first : Text.Leftmost ['&', '&'] (lead ++ comparison.render ++ [' '])
              ([' '] ++ Text.joinWith " && " ((next :: more).map Comparison.render)) := by
            apply Text.leftmost_pair
            rw [List.append_assoc, List.singleton_append,
              Text.pair_infix_append_cons (by decide) (by decide)]
            simp [clear, List.infix_cons_iff]
          have spells := Comparison.spells_render named blank space
          refine ⟨_, ?_, .cons spells spelled⟩
          have joined := Text.Cuts.first first cuts
          simpa [Text.joinWith] using joined

theorem render_not_blank {condition : Condition} (filled : condition.comparisons ≠ []) :
    ¬condition.render.Blank := by
  intro blank
  obtain ⟨comparison, rest, split⟩ := List.exists_cons_of_ne_nil filled
  have rendered : comparison.render ∈ condition.comparisons.map Comparison.render := by simp [split]
  have signed : '=' ∈ comparison.render := by
    cases negated : comparison.negated <;> simp [Comparison.render_eq, Comparison.sign, negated]
  exact blank.not_mem (by decide) (Text.subset_joinWith _ rendered signed)

theorem read_render {condition : Condition} (writable : condition.Writable) :
    read condition.render = .ok condition := by
  rw [read_eq_ok_iff, Written]
  by_cases empty : condition.comparisons = []
  · have nothing : condition.render = [] := by
      rw [render, empty]
      rfl
    rw [nothing, if_pos Text.blank_nil, ← empty]
  · rw [if_neg (render_not_blank empty)]
    exact exists_pieces_render empty writable Text.blank_nil

theorem writable_of_read {source : Text} {condition : Condition}
    (accepted : read source = .ok condition) : condition.Writable := by
  rw [read_eq_ok_iff, Written] at accepted
  intro comparison member
  split at accepted
  · rw [accepted] at member
    cases member
  · obtain ⟨pieces, cuts, spelled⟩ := accepted
    obtain ⟨piece, present, spells⟩ := exists_of_forall₂ spelled member
    refine ⟨spells.named, fun inside => ?_⟩
    exact cuts.unmarked (by simp) piece present (inside.trans spells.name_within)

end Condition

/-- What is read from a text is read from its rendering as well. Read from their renderings are the
conditions and the changes whose names can be written, and no others. -/
theorem renderings_read_back (source : Text) :
    (∀ condition, Condition.read source = .ok condition →
      Condition.read condition.render = .ok condition) ∧
    (∀ change, Change.read source = .ok change → Change.read change.render = .ok change) ∧
    (∀ condition : Condition,
      Condition.read condition.render = .ok condition ↔ condition.Writable) ∧
    ∀ change : Change, Change.read change.render = .ok change ↔ VariableName change.name := by
  have changes : ∀ change : Change, VariableName change.name →
      Change.read change.render = .ok change :=
    fun change named => Change.read_of_trim_eq named (Change.trim_render named)
  refine ⟨fun condition accepted => ?_, fun change accepted => ?_, fun condition => ?_,
    fun change => ?_⟩
  · exact Condition.read_render (Condition.writable_of_read accepted)
  · exact changes change (Change.variableName_of_read accepted)
  · exact ⟨Condition.writable_of_read, Condition.read_render⟩
  · exact ⟨Change.variableName_of_read, changes change⟩

theorem renderings_read_back_gate :
    Condition.read "a!  !=true&&&b  c== false" =
        .ok ⟨[⟨"a!", true, true⟩, ⟨"&b  c", false, false⟩]⟩ ∧
      Condition.read "a! != true && &b  c == false" =
        .ok ⟨[⟨"a!", true, true⟩, ⟨"&b  c", false, false⟩]⟩ ∧
      Change.read " a! =false" = .ok ⟨"a!", false⟩ ∧
      Change.read "a! = false" = .ok ⟨"a!", false⟩ := by
  have condition : Condition.read "a!  !=true&&&b  c== false" =
      .ok ⟨[⟨"a!", true, true⟩, ⟨"&b  c", false, false⟩]⟩ := by decide +kernel
  have change : Change.read " a! =false" = .ok ⟨"a!", false⟩ := by decide +kernel
  have conditionBack := (renderings_read_back "a!  !=true&&&b  c== false").1 _ condition
  have changeBack := (renderings_read_back " a! =false").2.1 _ change
  have conditionText : Condition.render ⟨[⟨"a!", true, true⟩, ⟨"&b  c", false, false⟩]⟩ =
      "a! != true && &b  c == false".toList := by decide +kernel
  have changeText : Change.render ⟨"a!", false⟩ = "a! = false".toList := by decide +kernel
  rw [conditionText] at conditionBack
  rw [changeText] at changeBack
  exact ⟨condition, conditionBack, change, changeBack⟩

end Knotwork
