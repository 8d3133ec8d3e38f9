import Knotwork.Artifact.Passages
import Knotwork.Proofs.Cutting

/-! The text of a node is escaped before it stands in a passage, one mark after the other. Told in one
go, from the left, two brackets of a kind become their entities and any other character stays. Main
statement: escaped text has no mark that starts or ends a macro, and text without such marks stays as
it is. -/

namespace Knotwork.Passage

structure MacroFree (t : Text) : Prop where
  unopened : ¬['<', '<'] <:+: t
  unclosed : ¬['>', '>'] <:+: t

/-- A text and its escaped form, read from the left. -/
inductive Escapes : Text → Text → Prop
  | done : Escapes [] []
  | opening {rest escaped : Text} : Escapes rest escaped →
      Escapes ('<' :: '<' :: rest) ("&lt;&lt;" ++ escaped)
  | closing {rest escaped : Text} : Escapes rest escaped →
      Escapes ('>' :: '>' :: rest) ("&gt;&gt;" ++ escaped)
  | kept {c : Char} {rest escaped : Text} : ¬['<', '<'] <+: c :: rest → ¬['>', '>'] <+: c :: rest →
      Escapes rest escaped → Escapes (c :: rest) (c :: escaped)

theorem escapeMacros_opening (rest : Text) :
    escapeMacros ('<' :: '<' :: rest) = "&lt;&lt;" ++ escapeMacros rest := by
  have unmarked : '>' ∉ ("&lt;&lt;" : Text) := by decide
  have opened := Text.replace_mark_append ['<', '<'] "&lt;&lt;" (by simp) rest
  unfold escapeMacros
  rw [← Text.replace_append_of_not_mem _ _ unmarked, ← opened]
  rfl

theorem escapeMacros_closing (rest : Text) :
    escapeMacros ('>' :: '>' :: rest) = "&gt;&gt;" ++ escapeMacros rest := by
  have unmarked : '<' ∉ ['>', '>'] := by decide
  have passed := Text.replace_append_of_not_mem "&lt;&lt;" ['<'] unmarked rest
  unfold escapeMacros
  rw [← Text.replace_mark_append ['>', '>'] _ (by simp), ← passed]
  rfl

-- The first pass brings no new bracket to the front, so the second one finds a mark there only if it
-- stood there before.
theorem escapeMacros_kept {c : Char} {rest : Text} (unopened : ¬['<', '<'] <+: c :: rest)
    (unclosed : ¬['>', '>'] <+: c :: rest) :
    escapeMacros (c :: rest) = c :: escapeMacros rest := by
  unfold escapeMacros
  rw [Text.replace_cons_of_not_prefix _ unopened, Text.replace_cons_of_not_prefix]
  intro closed
  obtain ⟨bracket, after⟩ := Text.pair_prefix_cons.mp closed
  rw [Text.head?_replace (by simp) (by simp) (by simp) (by decide)] at after
  exact unclosed (Text.pair_prefix_cons.mpr ⟨bracket, after⟩)

theorem escapes_escapeMacros (content : Text) : Escapes content (escapeMacros content) := by
  induction length : content.length using Nat.strong_induction_on generalizing content with
  | _ bound ih =>
      subst length
      cases content with
      | nil => exact .done
      | cons c rest =>
          by_cases opening : ['<', '<'] <+: c :: rest
          · obtain ⟨rfl, second⟩ := Text.pair_prefix_cons.mp opening
            obtain ⟨after, rfl⟩ := List.head?_eq_some_iff.mp second
            rw [escapeMacros_opening]
            refine .opening (ih _ ?_ after rfl)
            rw [List.length_cons, List.length_cons]
            omega
          · by_cases closing : ['>', '>'] <+: c :: rest
            · obtain ⟨rfl, second⟩ := Text.pair_prefix_cons.mp closing
              obtain ⟨after, rfl⟩ := List.head?_eq_some_iff.mp second
              rw [escapeMacros_closing]
              refine .closing (ih _ ?_ after rfl)
              rw [List.length_cons, List.length_cons]
              omega
            · rw [escapeMacros_kept opening closing]
              exact .kept opening closing (ih _ (by simp) rest rfl)

namespace Escapes

theorem head?_eq {content escaped : Text} (escapes : Escapes content escaped) {c : Char}
    (plain : c ≠ '&') (first : escaped.head? = some c) : content.head? = some c := by
  cases escapes with
  | done => exact first
  | opening _ => exact absurd (Option.some.inj first).symm plain
  | closing _ => exact absurd (Option.some.inj first).symm plain
  | kept _ _ _ => exact first

theorem unmarked {content escaped : Text} (escapes : Escapes content escaped) {m : Char}
    (bracket : m = '<' ∨ m = '>') : ¬[m, m] <:+: escaped := by
  induction escapes with
  | done => simp
  | opening _ ih =>
      have absent : m ∉ ("&lt;&lt;" : Text) := by rcases bracket with rfl | rfl <;> decide
      rwa [Text.pair_infix_append_of_not_mem absent]
  | closing _ ih =>
      have absent : m ∉ ("&gt;&gt;" : Text) := by rcases bracket with rfl | rfl <;> decide
      rwa [Text.pair_infix_append_of_not_mem absent]
  | @kept c rest escaped unopened unclosed later ih =>
      rw [List.infix_cons_iff, Text.pair_prefix_cons]
      rintro (⟨rfl, second⟩ | inside)
      -- What follows a kept bracket starts with an entity or with the character that stood there.
      · have visible : c ≠ '&' := by rcases bracket with rfl | rfl <;> decide
        have marked : [c, c] <+: c :: rest :=
          Text.pair_prefix_cons.mpr ⟨rfl, later.head?_eq visible second⟩
        rcases bracket with rfl | rfl
        · exact unopened marked
        · exact unclosed marked
      · exact ih inside

theorem eq_of_macroFree {content escaped : Text} (escapes : Escapes content escaped)
    (free : MacroFree content) : escaped = content := by
  induction escapes with
  | done => rfl
  | @opening rest _ _ _ => exact absurd ⟨[], rest, rfl⟩ free.unopened
  | @closing rest _ _ _ => exact absurd ⟨[], rest, rfl⟩ free.unclosed
  | @kept c rest _ _ _ _ ih =>
      have within : rest <:+: c :: rest := (List.suffix_cons c rest).isInfix
      rw [ih ⟨fun inside => free.unopened (inside.trans within),
        fun inside => free.unclosed (inside.trans within)⟩]

end Escapes

theorem macroFree_escapeMacros (content : Text) : MacroFree (escapeMacros content) :=
  ⟨(escapes_escapeMacros content).unmarked (Or.inl rfl),
    (escapes_escapeMacros content).unmarked (Or.inr rfl)⟩

theorem escapeMacros_of_macroFree {content : Text} (free : MacroFree content) :
    escapeMacros content = content :=
  (escapes_escapeMacros content).eq_of_macroFree free

/-- Escaped text has no mark of a macro. Text without such marks stays as it is, so escaping twice does
no more than escaping once. All that is changed are the marks, found from the left. -/
theorem escaping_removes_macro_marks (content : Text) :
    (¬['<', '<'] <:+: escapeMacros content ∧ ¬['>', '>'] <:+: escapeMacros content) ∧
      (¬['<', '<'] <:+: content ∧ ¬['>', '>'] <:+: content → escapeMacros content = content) ∧
      escapeMacros (escapeMacros content) = escapeMacros content ∧
      Escapes content (escapeMacros content) := by
  have free := macroFree_escapeMacros content
  refine ⟨⟨free.unopened, free.unclosed⟩, ?_, escapeMacros_of_macroFree free,
    escapes_escapeMacros content⟩
  rintro ⟨unopened, unclosed⟩
  exact escapeMacros_of_macroFree ⟨unopened, unclosed⟩

-- An odd bracket is left over, and it stands next to an entity.
example : escapeMacros "<<<>>> <>" = "&lt;&lt;<&gt;&gt;> <>".toList := by decide +kernel

end Knotwork.Passage
