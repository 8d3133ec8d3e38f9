import Mathlib.Data.List.Basic
import Mathlib.Data.List.Forall2
import Mathlib.Data.List.Perm.Basic

/-! Lists and results: traversals that may fail, lists that are matched item by item, and where a mark
first stands in a list. -/

namespace Knotwork

theorem Except.bind_eq_ok {ε α β : Type} {action : Except ε α} {next : α → Except ε β} {result : β} :
    (action >>= next) = .ok result ↔ ∃ value, action = .ok value ∧ next value = .ok result := by
  cases action <;> simp [bind, Except.bind]

theorem Except.eq_ok_of_toOption {ε α : Type} {result : Except ε α} {value : α}
    (found : result.toOption = some value) : result = .ok value := by
  cases result with
  | error _ => cases found
  | ok _ =>
      cases found
      rfl

theorem Except.mapError_eq_ok {α ε ζ : Type} {result : Except ε α} {change : ε → ζ} {value : α} :
    result.mapError change = .ok value ↔ result = .ok value := by
  cases result <;> simp [Except.mapError]

theorem mapM_eq_ok_iff {ε α β : Type} {action : α → Except ε β} {items : List α}
    {results : List β} :
    items.mapM action = .ok results ↔
      List.Forall₂ (fun item result => action item = .ok result) items results := by
  induction items generalizing results with
  | nil =>
      rw [List.forall₂_nil_left_iff]
      constructor
      · rintro ⟨⟩
        rfl
      · rintro rfl
        rfl
  | cons item rest ih =>
      rw [List.mapM_cons, Except.bind_eq_ok, List.forall₂_cons_left_iff]
      constructor
      · rintro ⟨first, found, later⟩
        obtain ⟨others, mapped, same⟩ := Except.bind_eq_ok.mp later
        cases same
        exact ⟨first, others, found, ih.mp mapped, rfl⟩
      · rintro ⟨first, others, found, mapped, rfl⟩
        exact ⟨first, found, Except.bind_eq_ok.mpr ⟨others, ih.mpr mapped, rfl⟩⟩

theorem exists_of_mapM_eq_error {ε α β : Type} {action : α → Except ε β} {items : List α}
    {error : ε} (failed : items.mapM action = .error error) :
    ∃ item ∈ items, action item = .error error := by
  induction items with
  | nil => cases failed
  | cons item rest ih =>
      rw [List.mapM_cons] at failed
      cases first : action item with
      | error reason =>
          rw [first] at failed
          cases failed
          exact ⟨item, by simp, first⟩
      | ok value =>
          cases later : rest.mapM action with
          | error reason =>
              rw [first, later] at failed
              cases failed
              obtain ⟨other, member, found⟩ := ih later
              exact ⟨other, by simp [member], found⟩
          | ok values =>
              rw [first, later] at failed
              cases failed

theorem exists_mapM_eq_ok {ε α β : Type} {action : α → Except ε β} {related : α → β → Prop}
    {items : List α} (each : ∀ item ∈ items, ∃ result, action item = .ok result ∧ related item result) :
    ∃ results, items.mapM action = .ok results ∧ List.Forall₂ related items results := by
  induction items with
  | nil => exact ⟨[], rfl, .nil⟩
  | cons item rest ih =>
      obtain ⟨first, firstResult, firstRelated⟩ := each item (by simp)
      obtain ⟨others, otherResults, othersRelated⟩ :=
        ih fun other member => each other (by simp [member])
      refine ⟨first :: others, mapM_eq_ok_iff.mpr ?_, .cons firstRelated othersRelated⟩
      exact .cons firstResult (mapM_eq_ok_iff.mp otherResults)

theorem exists_of_forall₂ {α β : Type} {related : α → β → Prop} {items : List α} {results : List β}
    (all : List.Forall₂ related items results) {result : β} (member : result ∈ results) :
    ∃ item ∈ items, related item result := by
  induction all with
  | nil => simp at member
  | cons first _ ih =>
      rcases List.mem_cons.mp member with rfl | later
      · exact ⟨_, by simp, first⟩
      · obtain ⟨item, present, found⟩ := ih later
        exact ⟨item, by simp [present], found⟩

theorem exists_of_forall₂_left {α β : Type} {related : α → β → Prop} {items : List α}
    {results : List β} (all : List.Forall₂ related items results) {item : α}
    (member : item ∈ items) : ∃ result ∈ results, related item result :=
  exists_of_forall₂ (List.Forall₂.flip (all.imp fun _ _ found => found)) member

theorem mem_of_mapM_eq_ok {ε α β : Type} {action : α → Except ε β} {items : List α}
    {results : List β} (mapped : items.mapM action = .ok results) {result : β}
    (member : result ∈ results) : ∃ item ∈ items, action item = .ok result :=
  exists_of_forall₂ (mapM_eq_ok_iff.mp mapped) member

theorem map_eq_of_forall₂ {α β γ : Type} {related : α → β → Prop} {first : α → γ} {second : β → γ}
    (same : ∀ item result, related item result → second result = first item) {items : List α}
    {results : List β} (all : List.Forall₂ related items results) :
    results.map second = items.map first := by
  induction all with
  | nil => rfl
  | cons head _ ih => rw [List.map_cons, List.map_cons, same _ _ head, ih]

theorem exists_find?_of_forall₂ {α β : Type} {related : α → β → Prop} {kind : α → Bool}
    {image : β → Bool} (same : ∀ item result, related item result → image result = kind item)
    {items : List α} {results : List β} (all : List.Forall₂ related items results) {found : β}
    (first : results.find? image = some found) :
    ∃ item, items.find? kind = some item ∧ related item found := by
  induction all with
  | nil => cases first
  | @cons item result _ _ head _ ih =>
      rw [List.find?_cons, same _ _ head] at first
      rw [List.find?_cons]
      cases here : kind item with
      | true =>
          rw [here] at first
          cases first
          exact ⟨item, rfl, head⟩
      | false =>
          rw [here] at first
          exact ih first

theorem forall₂_of_common {α β γ : Type} {left : α → γ → Prop} {right : β → γ → Prop}
    {joined : α → β → Prop} {first : List α} {second : List β} {common : List γ}
    (leftRelated : List.Forall₂ left first common) (rightRelated : List.Forall₂ right second common)
    (joins : ∀ one ∈ first, ∀ other ∈ second, ∀ item ∈ common,
      left one item → right other item → joined one other) :
    List.Forall₂ joined first second := by
  induction leftRelated generalizing second with
  | nil =>
      cases rightRelated
      exact .nil
  | cons leftHead _ ih =>
      cases rightRelated with
      | cons rightHead rightRest =>
          refine .cons (joins _ (by simp) _ (by simp) _ (by simp) leftHead rightHead) ?_
          apply ih rightRest
          intro one oneMember other otherMember item itemMember
          exact joins one (by simp [oneMember]) other (by simp [otherMember]) item
            (by simp [itemMember])

theorem rel_getElem?_of_forall₂ {α β : Type} {relation : α → β → Prop} {first : List α}
    {second : List β} (related : List.Forall₂ relation first second) (number : Nat) :
    Option.Rel relation first[number]? second[number]? := by
  induction related generalizing number with
  | nil => exact .none
  | cons head _ ih =>
      cases number with
      | zero => exact .some head
      | succ number => simpa using ih number

theorem perm_of_forall₂ {α β : Type} {before after : α → β → Prop} {ones others : List α}
    {items shuffled : List β}
    (determined : ∀ one other item, before one item → after other item → one = other)
    (first : List.Forall₂ before ones items) (perm : items.Perm shuffled)
    (second : List.Forall₂ after others shuffled) : ones.Perm others := by
  obtain ⟨middle, matched, order⟩ := List.perm_comp_forall₂ perm.symm first.flip
  have same : middle = others := by
    clear order perm
    induction second generalizing middle with
    | nil =>
        cases matched
        rfl
    | cons head _ ih =>
        cases matched with
        | cons twin rest => rw [determined _ _ _ twin head, ih _ rest]
  exact same ▸ order.symm

theorem mem_intercalate {α : Type} {separator member : α} {lists : List (List α)}
    (present : member ∈ [separator].intercalate lists) :
    member = separator ∨ ∃ list ∈ lists, member ∈ list := by
  induction lists with
  | nil => simp [List.intercalate] at present
  | cons first rest ih =>
      by_cases last : rest = []
      · right
        exact ⟨first, by simp, by simpa [last, List.intercalate] using present⟩
      · rw [List.intercalate_cons_of_ne_nil last, List.mem_append, List.mem_append,
          List.mem_singleton] at present
        rcases present with (inside | same) | later
        · exact Or.inr ⟨first, by simp, inside⟩
        · exact Or.inl same
        · rcases ih later with same | ⟨list, listed, inside⟩
          · exact Or.inl same
          · exact Or.inr ⟨list, by simp [listed], inside⟩

section

variable {α : Type} [DecidableEq α] {mark : α} {front : List α}

theorem takeWhile_ne_append (absent : mark ∉ front) (back : List α) :
    (front ++ mark :: back).takeWhile (· ≠ mark) = front := by
  have before : ∀ item ∈ front, decide (item ≠ mark) = true := by
    intro item member
    rw [decide_eq_true_eq]
    rintro rfl
    exact absent member
  rw [List.takeWhile_append_of_pos before, List.takeWhile_cons_of_neg (by simp), List.append_nil]

theorem dropWhile_ne_append (absent : mark ∉ front) (back : List α) :
    (front ++ mark :: back).dropWhile (· ≠ mark) = mark :: back := by
  have cut := List.takeWhile_append_dropWhile (p := (· ≠ mark)) (l := front ++ mark :: back)
  rw [takeWhile_ne_append absent] at cut
  exact List.append_cancel_left cut

end

end Knotwork
