import Knotwork.Proofs.Text

/-! Replacing a mark, character by character and line by line. Main statements: a text that is put
together from pieces has the lines of the pieces, and replacing a mark that stays within a line is done
line by line. -/

namespace Knotwork.Text

theorem piecesFrom_eq (mark : Text) (skip : Nat) (t : Text) :
    piecesFrom mark skip t = splitOn mark (t.drop skip) := by
  induction t generalizing skip with
  | nil => simp [splitOn, piecesFrom]
  | cons c rest ih =>
      cases skip with
      | zero => rfl
      | succ skip => rw [piecesFrom, ih, List.drop_succ_cons]

theorem splitOn_cons (mark : Text) (c : Char) (rest : Text) :
    splitOn mark (c :: rest) =
      if mark.isPrefixOf (c :: rest) then [] :: splitOn mark (rest.drop (mark.length - 1))
      else consFirst c (splitOn mark rest) := by
  rw [splitOn, piecesFrom, piecesFrom_eq, piecesFrom_eq, List.drop_zero]

theorem splitOn_char_cons (mark c : Char) (rest : Text) :
    splitOn [mark] (c :: rest) =
      if c = mark then [] :: splitOn [mark] rest else consFirst c (splitOn [mark] rest) := by
  rw [splitOn_cons]
  by_cases same : c = mark
  · simp [List.isPrefixOf, same]
  · simp [List.isPrefixOf, same, Ne.symm same]

theorem consFirst_ne_nil (c : Char) (pieces : List Text) : consFirst c pieces ≠ [] := by
  cases pieces <;> simp [consFirst]

theorem splitOn_ne_nil (mark t : Text) : splitOn mark t ≠ [] := by
  cases t with
  | nil => simp [splitOn, piecesFrom]
  | cons c rest =>
      rw [splitOn_cons]
      split
      · simp
      · exact consFirst_ne_nil c _

theorem joinWith_cons (separator piece : Text) {pieces : List Text} (nonempty : pieces ≠ []) :
    joinWith separator (piece :: pieces) = piece ++ separator ++ joinWith separator pieces := by
  cases pieces with
  | nil => exact absurd rfl nonempty
  | cons next rest => rfl

theorem joinWith_consFirst (separator : Text) (c : Char) {pieces : List Text}
    (nonempty : pieces ≠ []) :
    joinWith separator (consFirst c pieces) = c :: joinWith separator pieces := by
  cases pieces with
  | nil => exact absurd rfl nonempty
  | cons piece rest => cases rest <;> simp [consFirst, joinWith]

section Lines

variable (mark : Char)

theorem splitOn_append_mark (first second : Text) :
    splitOn [mark] (first ++ mark :: second) = splitOn [mark] first ++ splitOn [mark] second := by
  induction first with
  | nil => simp [splitOn, piecesFrom]
  | cons c rest ih =>
      rw [List.cons_append, splitOn_char_cons, splitOn_char_cons, ih]
      split
      · rfl
      · exact consFirst_append c (splitOn_ne_nil _ _) _

theorem splitOn_joinWith_flatMap {pieces : List Text} (nonempty : pieces ≠ []) :
    splitOn [mark] (joinWith [mark] pieces) = pieces.flatMap (splitOn [mark]) := by
  induction pieces with
  | nil => exact absurd rfl nonempty
  | cons piece rest ih =>
      cases rest with
      | nil => simp [joinWith]
      | cons next others =>
          rw [joinWith, List.append_assoc, List.singleton_append, splitOn_append_mark,
            ih (by simp), ← List.flatMap_cons]

theorem joinWith_splitOn (t : Text) : joinWith [mark] (splitOn [mark] t) = t := by
  induction t with
  | nil => rfl
  | cons c rest ih =>
      rw [splitOn_char_cons]
      split
      · rename_i same
        rw [joinWith_cons _ _ (splitOn_ne_nil _ _), ih, same]
        rfl
      · rw [joinWith_consFirst _ _ (splitOn_ne_nil _ _), ih]

theorem not_mem_of_mem_splitOn {t piece : Text} (member : piece ∈ splitOn [mark] t) :
    mark ∉ piece := by
  induction t generalizing piece with
  | nil =>
      rw [List.mem_singleton.mp member]
      simp
  | cons c rest ih =>
      rw [splitOn_char_cons] at member
      split at member
      · rcases List.mem_cons.mp member with rfl | later
        · simp
        · exact ih later
      · rename_i different
        cases pieces : splitOn [mark] rest with
        | nil => exact absurd pieces (splitOn_ne_nil _ _)
        | cons first others =>
            rw [pieces] at ih member
            rcases List.mem_cons.mp member with rfl | later
            · have absent := ih (List.mem_cons_self (a := first) (l := others))
              simpa [Ne.symm different] using absent
            · exact ih (List.mem_cons_of_mem _ later)

end Lines

section Replace

variable (mark replacement : Text)

@[simp] theorem replace_nil : replace mark replacement [] = [] := rfl

theorem replace_cons (c : Char) (rest : Text) :
    replace mark replacement (c :: rest) =
      if mark.isPrefixOf (c :: rest) then
        replacement ++ replace mark replacement (rest.drop (mark.length - 1))
      else c :: replace mark replacement rest := by
  rw [replace, splitOn_cons]
  split
  · rw [joinWith_cons _ _ (splitOn_ne_nil _ _), List.nil_append]
    rfl
  · exact joinWith_consFirst _ _ (splitOn_ne_nil _ _)

theorem replace_mark_append (nonempty : mark ≠ []) (rest : Text) :
    replace mark replacement (mark ++ rest) = replacement ++ replace mark replacement rest := by
  obtain ⟨m, others, rfl⟩ := List.exists_cons_of_ne_nil nonempty
  have marked : (m :: others).isPrefixOf (m :: (others ++ rest)) = true :=
    List.isPrefixOf_iff_prefix.mpr (List.prefix_append (m :: others) rest)
  rw [List.cons_append, replace_cons, if_pos marked]
  simp

variable {mark} in
theorem replace_cons_of_not_prefix {c : Char} {rest : Text} (absent : ¬mark <+: c :: rest) :
    replace mark replacement (c :: rest) = c :: replace mark replacement rest := by
  rw [replace_cons, if_neg (mt List.isPrefixOf_iff_prefix.mp absent)]

theorem replace_append_of_not_mem {m : Char} (others : Text) {first : Text} (absent : m ∉ first)
    (second : Text) :
    replace (m :: others) replacement (first ++ second) =
      first ++ replace (m :: others) replacement second := by
  induction first with
  | nil => rfl
  | cons c rest ih =>
      simp only [List.mem_cons, not_or] at absent
      rw [List.cons_append, replace_cons_of_not_prefix, ih absent.2]
      · rfl
      · exact fun marked => absent.1 (List.cons_prefix_cons.mp marked).1

theorem replace_char_cons (m c : Char) (rest : Text) :
    replace [m] replacement (c :: rest) =
      if c = m then replacement ++ replace [m] replacement rest
      else c :: replace [m] replacement rest := by
  rw [replace_cons]
  by_cases same : c = m
  · simp [List.isPrefixOf, same]
  · simp [List.isPrefixOf, same, Ne.symm same]

theorem replace_char (m : Char) (t : Text) :
    replace [m] replacement t = t.flatMap fun c => if c = m then replacement else [c] := by
  induction t with
  | nil => rfl
  | cons c rest ih =>
      rw [replace_char_cons, List.flatMap_cons, ih]
      split <;> rfl

variable {replacement} in
theorem not_mem_replace_char {m : Char} (absent : m ∉ replacement) (t : Text) :
    m ∉ replace [m] replacement t := by
  rw [replace_char, List.mem_flatMap]
  rintro ⟨c, _, inside⟩
  split at inside
  · exact absent inside
  · rename_i other
    exact other (List.mem_singleton.mp inside).symm

theorem mem_replace {t : Text} {c : Char} (member : c ∈ replace mark replacement t) :
    c ∈ replacement ∨ c ∈ t := by
  induction length : t.length using Nat.strong_induction_on generalizing t with
  | _ bound ih =>
      subst length
      cases t with
      | nil => simp at member
      | cons first rest =>
          rw [replace_cons] at member
          split at member
          · rcases List.mem_append.mp member with new | old
            · exact Or.inl new
            · have shorter : (rest.drop (mark.length - 1)).length < (first :: rest).length := by
                rw [List.length_drop, List.length_cons]
                omega
              rcases ih _ shorter old rfl with new | later
              · exact Or.inl new
              · exact Or.inr (List.mem_cons_of_mem _ (List.mem_of_mem_drop later))
          · rcases List.mem_cons.mp member with rfl | old
            · exact Or.inr (by simp)
            · rcases ih _ (by simp) old rfl with new | later
              · exact Or.inl new
              · exact Or.inr (List.mem_cons_of_mem _ later)

variable {mark replacement}

theorem isPrefixOf_append_cons {c : Char} (absent : c ∉ mark) (nonempty : mark ≠ [])
    (first second : Text) : mark.isPrefixOf (first ++ c :: second) = mark.isPrefixOf first := by
  induction mark generalizing first with
  | nil => exact absurd rfl nonempty
  | cons m others ih =>
      simp only [List.mem_cons, not_or] at absent
      cases first with
      | nil => simp [List.isPrefixOf, Ne.symm absent.1]
      | cons head rest =>
          rw [List.cons_append, List.isPrefixOf, List.isPrefixOf]
          cases others with
          | nil => simp
          | cons next tail => rw [ih absent.2 (by simp)]

theorem replace_append_cons {c : Char} (absent : c ∉ mark) (nonempty : mark ≠ [])
    (first second : Text) :
    replace mark replacement (first ++ c :: second) =
      replace mark replacement first ++ c :: replace mark replacement second := by
  induction length : first.length using Nat.strong_induction_on generalizing first with
  | _ bound ih =>
      subst length
      cases first with
      | nil =>
          have skipped : mark.isPrefixOf (c :: second) = false := by
            have none := isPrefixOf_append_cons absent nonempty [] second
            cases mark with
            | nil => exact absurd rfl nonempty
            | cons m others => exact none
          rw [List.nil_append, replace_cons, skipped]
          rfl
      | cons head rest =>
          have found := isPrefixOf_append_cons absent nonempty (head :: rest) second
          rw [List.cons_append] at found ⊢
          rw [replace_cons, replace_cons, found]
          split
          · rename_i marked
            obtain ⟨after, split⟩ := List.isPrefixOf_iff_prefix.mp marked
            have within : mark.length - 1 ≤ rest.length := by
              have total := congrArg List.length split
              rw [List.length_append, List.length_cons] at total
              omega
            have shorter : (rest.drop (mark.length - 1)).length < (head :: rest).length := by
              rw [List.length_drop, List.length_cons]
              omega
            rw [List.drop_append_of_le_length within, ih _ shorter _ rfl, List.append_assoc]
          · rw [ih _ (by simp) _ rfl]
            rfl

theorem splitOn_replace {c : Char} (absent : c ∉ mark) (nonempty : mark ≠ [])
    (unbroken : c ∉ replacement) (t : Text) :
    splitOn [c] (replace mark replacement t) =
      (splitOn [c] t).map (replace mark replacement) := by
  have joined : ∀ pieces : List Text, pieces ≠ [] →
      replace mark replacement (joinWith [c] pieces) =
        joinWith [c] (pieces.map (replace mark replacement)) := by
    intro pieces filled
    induction pieces with
    | nil => exact absurd rfl filled
    | cons piece rest ih =>
        cases rest with
        | nil => rfl
        | cons next others =>
            rw [joinWith, List.append_assoc, List.singleton_append,
              replace_append_cons absent nonempty, ih (by simp)]
            simp [joinWith]
  have lines := joined (splitOn [c] t) (splitOn_ne_nil _ _)
  rw [joinWith_splitOn] at lines
  rw [lines]
  apply splitOn_joinWith
  · simp [splitOn_ne_nil]
  · intro piece member
    obtain ⟨line, lineMember, rfl⟩ := List.mem_map.mp member
    intro inside
    rcases mem_replace mark replacement inside with new | old
    · exact unbroken new
    · exact not_mem_of_mem_splitOn c lineMember old

theorem head?_replace {c : Char} (unmarked : mark.head? ≠ some c) (nonempty : mark ≠ [])
    (filled : replacement ≠ []) (replaced : replacement.head? ≠ some c) (t : Text) :
    (replace mark replacement t).head? = some c ↔ t.head? = some c := by
  cases t with
  | nil => simp
  | cons first rest =>
      rw [replace_cons]
      split
      · rename_i marked
        obtain ⟨m, others, rfl⟩ := List.exists_cons_of_ne_nil nonempty
        obtain ⟨r, more, rfl⟩ := List.exists_cons_of_ne_nil filled
        simp only [List.isPrefixOf, Bool.and_eq_true, beq_iff_eq] at marked
        rw [List.head?_cons] at unmarked replaced ⊢
        rw [← marked.1, List.cons_append, List.head?_cons]
        simp [unmarked, replaced]
      · rfl

end Replace

end Knotwork.Text
