import Knotwork.Text.Order
import Mathlib.Data.Char
import Mathlib.Data.List.Lex
import Mathlib.Data.List.Sort

/-! The dictionary order is a total order of texts, and sorting puts a list into the one order that
it has among its permutations. -/

namespace Knotwork

namespace Text

theorem atMost_iff_not_lex (first second : Text) :
    atMost first second = true ↔ ¬List.Lex (· < ·) second first := by
  induction first generalizing second with
  | nil => simp [atMost]
  | cons a as ih =>
      cases second with
      | nil => simp [atMost]
      | cons b bs =>
          rw [List.cons_lex_cons_iff]
          simp only [atMost, Char.toNat, ← UInt32.lt_iff_toNat_lt, ← Char.lt_def]
          rcases lt_trichotomy a b with less | same | greater
          · simp [less, not_lt_of_gt less, ne_of_gt less]
          · subst same
            simp [ih]
          · simp [greater, not_lt_of_gt greater]

theorem atMost_iff_le (first second : Text) : atMost first second = true ↔ first ≤ second := by
  rw [atMost_iff_not_lex, ← not_lt]
  rfl

theorem atMost_total (first second : Text) :
    atMost first second = true ∨ atMost second first = true := by
  rw [atMost_iff_le, atMost_iff_le]
  exact le_total first second

theorem atMost_trans {first second third : Text} (lower : atMost first second = true)
    (upper : atMost second third = true) : atMost first third = true := by
  rw [atMost_iff_le] at lower upper ⊢
  exact le_trans lower upper

theorem atMost_antisymm {first second : Text} (lower : atMost first second = true)
    (upper : atMost second first = true) : first = second := by
  rw [atMost_iff_le] at lower upper
  exact le_antisymm lower upper

end Text

section Sorting

variable {α : Type}

theorem insertBy_eq_orderedInsert (before : α → α → Bool) (item : α) (items : List α) :
    insertBy before item items = items.orderedInsert (before · · = true) item := by
  induction items with
  | nil => rfl
  | cons head rest ih => simp only [insertBy, List.orderedInsert, ih]

theorem sortBy_eq_insertionSort (before : α → α → Bool) (items : List α) :
    sortBy before items = items.insertionSort (before · · = true) := by
  induction items with
  | nil => rfl
  | cons item rest ih =>
      rw [sortBy, ih, insertBy_eq_orderedInsert, List.insertionSort_cons]

theorem sortBy_perm (before : α → α → Bool) (items : List α) :
    (sortBy before items).Perm items := by
  rw [sortBy_eq_insertionSort]
  exact List.perm_insertionSort _ items

theorem pairwise_sortBy (before : α → α → Bool)
    (total : ∀ first second, before first second = true ∨ before second first = true)
    (trans : ∀ first second third, before first second = true → before second third = true →
      before first third = true) (items : List α) :
    (sortBy before items).Pairwise (before · · = true) := by
  have : Std.Total (before · · = true) := ⟨total⟩
  have : IsTrans α (before · · = true) := ⟨trans⟩
  rw [sortBy_eq_insertionSort]
  exact List.pairwise_insertionSort _ items

theorem map_sortBy {β : Type} (before : α → α → Bool) (after : β → β → Bool) (image : α → β)
    (kept : ∀ first second, after (image first) (image second) = before first second)
    (items : List α) : (sortBy before items).map image = sortBy after (items.map image) := by
  rw [sortBy_eq_insertionSort, sortBy_eq_insertionSort]
  apply List.map_insertionSort
  intro first _ second _
  rw [kept]

end Sorting

theorem Text.mem_sort (name : Text) (texts : List Text) : name ∈ Text.sort texts ↔ name ∈ texts :=
  (sortBy_perm Text.atMost texts).mem_iff

section FirstOfEach

variable {α : Type} [DecidableEq α]

@[simp] theorem mem_firstOfEach (item : α) (items : List α) :
    item ∈ firstOfEach items ↔ item ∈ items := by
  induction items with
  | nil => simp [firstOfEach]
  | cons head rest ih =>
      simp only [firstOfEach, List.mem_cons, List.mem_filter, ih, decide_eq_true_eq]
      by_cases same : item = head
      · simp [same]
      · simp [same]

theorem nodup_firstOfEach (items : List α) : (firstOfEach items).Nodup := by
  induction items with
  | nil => simp [firstOfEach]
  | cons head rest ih =>
      refine List.nodup_cons.mpr ⟨?_, ih.filter _⟩
      simp

theorem firstOfEach_concat (items : List α) (last : α) :
    firstOfEach (items ++ [last]) =
      if last ∈ items then firstOfEach items else firstOfEach items ++ [last] := by
  induction items with
  | nil => rfl
  | cons head rest ih =>
      rw [List.cons_append, firstOfEach, firstOfEach, ih]
      by_cases same : last = head
      · subst same
        by_cases later : last ∈ rest <;> simp [later]
      · by_cases later : last ∈ rest <;> simp [later, same]

end FirstOfEach

end Knotwork
