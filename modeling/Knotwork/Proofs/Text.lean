import Knotwork.Text.Blank
import Knotwork.Text.Cut
import Knotwork.Text.Lines
import Mathlib.Data.List.DropRight

/-! Trimming leaves trimmed text alone, cutting at a single character undoes putting it between
pieces that do not hold it, and what follows the end of a line starts lines of its own. -/

namespace Knotwork.Text

theorem isDigit_of_mem_ofNat {n : Nat} {c : Char} (member : c ∈ ofNat n) : c.isDigit = true :=
  Nat.isDigit_of_mem_toDigits (by decide) (by decide) member

theorem ofNat_injective : Function.Injective ofNat := by
  intro first second same
  have numbers := congrArg (Nat.ofDigitChars 10 · 0) same
  simpa [ofNat] using numbers

theorem trimEnd_prefix (t : Text) : trimEnd t <+: t := List.rdropWhile_prefix isBlank t

theorem trimStart_trimEnd (t : Text) (started : trimStart t = t) :
    trimStart (trimEnd t) = trimEnd t := by
  obtain ⟨rest, split⟩ := trimEnd_prefix t
  cases kept : trimEnd t with
  | nil => rfl
  | cons c others =>
      rw [kept, List.cons_append] at split
      rw [trimStart, ← split, List.dropWhile_eq_self_iff] at started
      have first : isBlank c = false := by simpa using started (by simp)
      simp [trimStart, first]

@[simp] theorem trim_trim (t : Text) : trim (trim t) = trim t := by
  have started : trimStart (trimStart t) = trimStart t := List.dropWhile_idempotent isBlank _
  rw [trim, trim, trimStart_trimEnd _ started]
  exact List.rdropWhile_idempotent isBlank _

theorem cut?_append (mark : Char) (before after : Text) (absent : mark ∉ before) :
    cut? [mark] (before ++ mark :: after) = some (before, after) := by
  induction before with
  | nil => simp [cut?, List.isPrefixOf?]
  | cons c before ih =>
      simp only [List.mem_cons, not_or] at absent
      have skipped : [mark].isPrefixOf? (c :: (before ++ mark :: after)) = none := by
        simp [List.isPrefixOf?, absent.1]
      simp [cut?, skipped, ih absent.2]

theorem splitOn_of_not_mem (mark : Char) (t : Text) (absent : mark ∉ t) :
    splitOn [mark] t = [t] := by
  induction t with
  | nil => rfl
  | cons c rest ih =>
      simp only [List.mem_cons, not_or] at absent
      have step := ih absent.2
      simp only [splitOn] at step ⊢
      simp [piecesFrom, List.isPrefixOf, absent.1, step, consFirst]

theorem splitOn_append (mark : Char) (piece rest : Text) (absent : mark ∉ piece) :
    splitOn [mark] (piece ++ mark :: rest) = piece :: splitOn [mark] rest := by
  induction piece with
  | nil => simp [splitOn, piecesFrom, List.isPrefixOf]
  | cons c piece ih =>
      simp only [List.mem_cons, not_or] at absent
      have step := ih absent.2
      simp only [splitOn] at step ⊢
      simp [piecesFrom, List.isPrefixOf, absent.1, step, consFirst]

theorem splitOn_joinWith (mark : Char) (pieces : List Text) (nonempty : pieces ≠ [])
    (absent : ∀ piece ∈ pieces, mark ∉ piece) :
    splitOn [mark] (joinWith [mark] pieces) = pieces := by
  induction pieces with
  | nil => exact absurd rfl nonempty
  | cons piece rest ih =>
      have here : mark ∉ piece := absent piece (by simp)
      cases rest with
      | nil => exact splitOn_of_not_mem mark piece here
      | cons next others =>
          have step := ih (by simp) fun other member => absent other (by simp [member])
          rw [joinWith, List.append_assoc, List.singleton_append, splitOn_append mark _ _ here, step]

theorem joinWith_ne_nil (separator : Text) (pieces : List Text) (nonempty : pieces ≠ [])
    (filled : ∀ piece ∈ pieces, piece ≠ []) : joinWith separator pieces ≠ [] := by
  cases pieces with
  | nil => exact absurd rfl nonempty
  | cons piece rest =>
      have first : piece ≠ [] := filled piece (by simp)
      cases rest with
      | nil => exact first
      | cons next others => simp [joinWith, first]

theorem lines_cons (c : Char) (rest : Text) :
    lines (c :: rest) =
      if c = '\r' ∧ rest.head? = some '\n' then lines rest
      else if isLineBreak c then [] :: lines rest
      else consFirst c (lines rest) := by
  rw [lines.eq_def]
  split
  · rename_i empty
    cases empty
  · rename_i others same
    cases same
    have single : isLineBreak '\n' = true := by decide
    simp [lines, single]
  · rename_i first others unpaired same
    cases same
    have unmet : ¬(c = '\r' ∧ rest.head? = some '\n') := by
      rintro ⟨rfl, starts⟩
      obtain ⟨tail, rfl⟩ := List.head?_eq_some_iff.mp starts
      exact unpaired tail rfl rfl
    rw [if_neg unmet]
    cases lines rest <;> rfl

theorem consFirst_append (c : Char) {pieces : List Text} (nonempty : pieces ≠ [])
    (others : List Text) : consFirst c (pieces ++ others) = consFirst c pieces ++ others := by
  cases pieces with
  | nil => exact absurd rfl nonempty
  | cons piece rest => rfl

theorem lines_newline (t : Text) : lines ('\n' :: t) = [] :: lines t := by
  rw [lines_cons, if_neg (by simp), if_pos (by decide)]

theorem lines_ne_nil (t : Text) (nonempty : t ≠ []) : lines t ≠ [] := by
  induction t with
  | nil => exact absurd rfl nonempty
  | cons c rest ih =>
      rw [lines_cons]
      split
      · rename_i paired
        apply ih
        rintro rfl
        cases paired.2
      · split
        · simp
        · cases lines rest <;> simp [consFirst]

theorem lines_append_newline (first second : Text) :
    lines (first ++ '\n' :: second) = lines (first ++ ['\n']) ++ lines second := by
  induction first with
  | nil => simp [lines_newline, lines]
  | cons c rest ih =>
      have heads : (rest ++ '\n' :: second).head? = (rest ++ ['\n']).head? := by
        cases rest <;> rfl
      have filled : lines (rest ++ ['\n']) ≠ [] := lines_ne_nil _ (by simp)
      rw [List.cons_append, List.cons_append, lines_cons, lines_cons, heads, ih]
      split
      · rfl
      · split
        · rfl
        · exact consFirst_append c filled _

theorem lines_append {first : Text} (ended : first = [] ∨ first.getLast? = some '\n')
    (second : Text) : lines (first ++ second) = lines first ++ lines second := by
  rcases ended with rfl | ended
  · rfl
  · obtain ⟨body, rfl⟩ := List.getLast?_eq_some_iff.mp ended
    rw [List.append_assoc, List.singleton_append]
    exact lines_append_newline body second

end Knotwork.Text
