import Knotwork.Proofs.Choices
import Knotwork.Proofs.Feeding

/-! Braces in the lines of a knot. Main statement: a line whose braces do not match is refused, unless
the braces that are too many stand where nothing looks at them: closing ones where none opens, and
whatever follows the first braces if these hold a condition. -/

namespace Knotwork

namespace Text

def openBraces : Nat → Text → Option Nat
  | depth, [] => some depth
  | depth, c :: rest =>
      if c = '{' then openBraces (depth + 1) rest
      else if c = '}' then if depth = 0 then none else openBraces (depth - 1) rest
      else openBraces depth rest

/-- Every brace that opens is closed, and every one that closes was open. -/
def Balanced (t : Text) : Prop := openBraces 0 t = some 0

instance (t : Text) : Decidable t.Balanced := inferInstanceAs (Decidable (_ = _))

theorem openBraces_append (depth : Nat) (first second : Text) :
    openBraces depth (first ++ second) =
      (openBraces depth first).bind fun depth => openBraces depth second := by
  induction first generalizing depth with
  | nil => rfl
  | cons c rest ih =>
      rw [List.cons_append, openBraces, openBraces]
      by_cases opening : c = '{'
      · rw [if_pos opening, if_pos opening, ih]
      · by_cases closing : c = '}'
        · by_cases ground : depth = 0
          · simp [closing, ground]
          · simp [closing, ground, ih]
        · simp [opening, closing, ih]

theorem openBraces_of_not_mem {t : Text} (absent : '}' ∉ t) (depth : Nat) :
    openBraces depth t = some (depth + t.count '{') := by
  induction t generalizing depth with
  | nil => rfl
  | cons c rest ih =>
      simp only [List.mem_cons, not_or] at absent
      rw [openBraces, List.count_cons]
      by_cases opening : c = '{'
      · simp only [opening, if_true, beq_self_eq_true, ih absent.2]
        congr 1
        omega
      · simp [opening, Ne.symm absent.1, ih absent.2]

theorem openBraces_pair {before guard : Text} (unopened : '{' ∉ before) (unclosed : '}' ∉ before)
    (inner : '}' ∉ guard) (after : Text) :
    openBraces 0 (before ++ '{' :: (guard ++ '}' :: after)) =
      openBraces (guard.count '{') after := by
  have front : openBraces 0 before = some 0 := by
    rw [openBraces_of_not_mem unclosed, List.count_eq_zero.mpr unopened]
  have inside : openBraces 1 guard = some (guard.count '{' + 1) := by
    rw [openBraces_of_not_mem inner, Nat.add_comm]
  rw [openBraces_append, front, Option.bind_some, openBraces, if_pos rfl, openBraces_append, inside,
    Option.bind_some, openBraces, if_neg (by decide), if_pos rfl, if_neg (by omega),
    Nat.add_sub_cancel]

def upTo (mark t : Text) : Text := ((cut? mark t).map Prod.fst).getD t

theorem headD_splitOn (mark : Char) (t : Text) : (splitOn [mark] t).headD [] = upTo [mark] t := by
  rw [upTo]
  cases found : cut? [mark] t with
  | none =>
      rw [splitOn_of_cut?_eq_none found]
      rfl
  | some parts =>
      rw [splitOn_of_cut?_eq_some (by simp) found]
      rfl

end Text

/-- Braces that do not match, although nothing that is looked at is wrong: some close and none opens,
or the first ones hold a condition and those after them do not close what is open. -/
inductive Stray (part : Text) : Prop
  | unopened : '{' ∉ part → '}' ∈ part → Stray part
  | leftOver {before guard after : Text} {condition : Condition} :
      part = before ++ '{' :: (guard ++ '}' :: after) → '{' ∉ before → '}' ∉ before → '}' ∉ guard →
      Condition.read guard.trim = .ok condition →
      Text.openBraces (guard.count '{') after ≠ some 0 → Stray part

theorem not_stray_of_unclosed {part : Text} (opened : '{' ∈ part) (unclosed : '}' ∉ part) :
    ¬Stray part := by
  rintro (⟨unopened, _⟩ | ⟨rfl, _⟩)
  · exact unopened opened
  · simp at unclosed

theorem takeCondition_eq_ok {part : Text} {result : Text × Text}
    (taken : takeCondition part = .ok result) :
    '{' ∉ part ∨ ∃ (before guard after : Text) (condition : Condition),
      part = before ++ '{' :: (guard ++ '}' :: after) ∧ '{' ∉ before ∧ '}' ∉ before ∧ '}' ∉ guard ∧
        Condition.read guard.trim = .ok condition := by
  unfold takeCondition at taken
  split at taken
  · rename_i none
    left
    intro opened
    obtain ⟨before, after, rfl⟩ := List.append_of_mem opened
    exact (Text.cut?_eq_none_iff (by simp)).mp none ⟨before, after, by simp⟩
  · rename_i before rest found
    right
    split at taken
    · cases taken
    · rename_i front
      split at taken
      · cases taken
      · rename_i guard after inner
        obtain ⟨condition, read, _⟩ := Except.bind_eq_ok.mp taken
        obtain ⟨rfl, unopened⟩ := Text.cut?_char_eq_some found
        obtain ⟨rfl, unclosed⟩ := Text.cut?_char_eq_some inner
        exact ⟨before, guard, after, condition, rfl, unopened, by simpa using front, unclosed, read⟩

theorem takeCondition_of_unbalanced {part : Text} (unbalanced : ¬part.Balanced) :
    (∃ result, takeCondition part = .ok result) ↔ Stray part := by
  constructor
  · rintro ⟨result, taken⟩
    rcases takeCondition_eq_ok taken with unopened | ⟨before, guard, after, condition, rfl, front⟩
    · apply Stray.unopened unopened
      by_contra unclosed
      apply unbalanced
      rw [Text.Balanced, Text.openBraces_of_not_mem unclosed, List.count_eq_zero.mpr unopened]
    · obtain ⟨unopened, unclosed, inner, read⟩ := front
      apply Stray.leftOver rfl unopened unclosed inner read
      rwa [← Text.openBraces_pair unopened unclosed inner]
  · rintro (⟨unopened, _⟩ | ⟨rfl, unopened, unclosed, inner, read, _⟩)
    · exact ⟨_, takeCondition_of_not_mem unopened⟩
    · exact ⟨_, takeCondition_of_braces read unopened unclosed inner _⟩

namespace Choice

def searched (line : Text) : Text :=
  Text.upTo ['~'] (Text.upTo ['-', '>'] (Text.dropMark ['*'] line.trim).trim)

def beside (line : Text) : Except ParseError (List Change × Arrow) := do
  let (rest, arrow) ← takeArrow (Text.dropMark ['*'] line.trim).trim
  let changes ← readChanges (Text.splitOn ['~'] rest).tail
  return (changes, arrow)

/-- A choice is refused whatever its braces: its arrow leads nowhere, a change cannot be read, or there
is nothing in it but a condition. -/
def FaultyElsewhere (line : Text) : Prop :=
  (∃ error, beside line = .error error) ∨
    beside line = .ok ([], {}) ∧
      ∃ condition rest, takeCondition (searched line) = .ok (condition, rest) ∧ rest.trim = []

end Choice

theorem upTo_of_takeArrow {source rest : Text} {arrow : Arrow}
    (taken : takeArrow source = .ok (rest, arrow)) : rest = Text.upTo ['-', '>'] source := by
  unfold takeArrow at taken
  rw [Text.upTo]
  split at taken
  · rename_i none
    cases taken
    rw [none]
    rfl
  · rename_i before after found
    rw [found]
    split at taken
    · cases taken
    · cases taken
      rfl
    · cases taken
      rfl

namespace Choice

theorem nothing_iff (text : Text) (changes : List Change) (arrow : Arrow) :
    (text.isEmpty && arrow.target.isNone && arrow.stitch.isNone && changes.isEmpty) = true ↔
      text = [] ∧ changes = [] ∧ arrow = {} := by
  obtain ⟨target, stitch⟩ := arrow
  simp only [Bool.and_eq_true, List.isEmpty_iff, Option.isNone_iff_eq_none, Arrow.mk.injEq]
  tauto

theorem read_of_beside {line : Text} {changes : List Change} {arrow : Arrow}
    (others : beside line = .ok (changes, arrow)) :
    read line = takeCondition (searched line) >>= fun taken =>
      if taken.2.trim = [] ∧ changes = [] ∧ arrow = {} then
        .error { grammar := .script, fault := .emptyChoice }
      else .ok { text := taken.2.trim, condition := taken.1, changes, target := arrow.target,
                 stitch := arrow.stitch } := by
  obtain ⟨⟨front, led⟩, taken, later⟩ := Except.bind_eq_ok.mp others
  obtain ⟨made, read, same⟩ := Except.bind_eq_ok.mp later
  cases same
  have part : searched line = (Text.splitOn ['~'] front).headD [] := by
    rw [Text.headD_splitOn, upTo_of_takeArrow taken]
    rfl
  unfold Choice.read
  rw [taken, part]
  simp only [bind, Except.bind, read]
  cases takeCondition ((Text.splitOn ['~'] front).headD []) with
  | error fault => rfl
  | ok result =>
      have nothing := nothing_iff result.2.trim changes arrow
      by_cases empty : result.2.trim = [] ∧ changes = [] ∧ arrow = {}
      · dsimp only
        rw [if_pos empty, if_pos (nothing.mpr empty)]
        rfl
      · dsimp only
        rw [if_neg empty, if_neg fun none => empty (nothing.mp none)]
        rfl

theorem exists_error_of_beside {line : Text} {error : ParseError}
    (failed : beside line = .error error) : ∃ error, read line = .error error := by
  unfold beside at failed
  unfold read
  cases taken : takeArrow (Text.dropMark ['*'] line.trim).trim with
  | error fault => exact ⟨fault, rfl⟩
  | ok parts =>
      obtain ⟨front, arrow⟩ := parts
      rw [taken] at failed
      simp only [bind, Except.bind] at failed ⊢
      cases changed : readChanges (Text.splitOn ['~'] front).tail with
      | error fault => exact ⟨fault, rfl⟩
      | ok changes =>
          rw [changed] at failed
          cases failed

theorem exists_error_iff (line : Text) :
    (∃ error, read line = .error error) ↔
      (¬∃ result, takeCondition (searched line) = .ok result) ∨ FaultyElsewhere line := by
  cases others : beside line with
  | error fault => exact iff_of_true (exists_error_of_beside others) (Or.inr (Or.inl ⟨fault, others⟩))
  | ok parts =>
      obtain ⟨changes, arrow⟩ := parts
      have reads := read_of_beside others
      cases taken : takeCondition (searched line) with
      | error fault =>
          rw [taken] at reads
          exact iff_of_true ⟨fault, reads⟩ (Or.inl (by simp))
      | ok result =>
          obtain ⟨condition, rest⟩ := result
          rw [taken] at reads
          by_cases empty : rest.trim = [] ∧ changes = [] ∧ arrow = {}
          · have failed := reads.trans (if_pos empty)
            obtain ⟨blank, rfl, rfl⟩ := empty
            exact iff_of_true ⟨_, failed⟩ (Or.inr (Or.inr ⟨others, condition, rest, taken, blank⟩))
          · have accepted := reads.trans (if_neg empty)
            refine iff_of_false ?_ ?_
            · rintro ⟨error, failed⟩
              cases accepted.symm.trans failed
            · rintro (refused | ⟨error, failed⟩ | ⟨nothing, _, _, same, blank⟩)
              · exact refused ⟨_, rfl⟩
              · cases others.symm.trans failed
              · cases others.symm.trans nothing
                cases taken.symm.trans same
                exact empty ⟨blank, rfl, rfl⟩

end Choice

namespace BlockDraft

def searched (line : Text) : Text := (Text.dropMark ['-'] line.trim).trim

theorem exists_error_iff (line : Text) :
    (∃ error, read line = .error error) ↔ ¬∃ result, takeCondition (searched line) = .ok result := by
  unfold read searched
  cases takeCondition (Text.dropMark ['-'] line.trim).trim with
  | error fault => exact iff_of_true ⟨fault, rfl⟩ (by simp)
  | ok result => exact iff_of_false (by simp [bind, Except.bind, pure, Except.pure]) (by simp)

end BlockDraft

theorem Reader.exists_error_of_dash {reader : Reader} {knot : KnotDraft}
    (present : reader.current = some knot) {line : Text} (dash : line.trim.head? = some '-') :
    (∃ error, (reader.feed line).2 = some error) ↔ ∃ error, BlockDraft.read line = .error error := by
  obtain ⟨rest, marked⟩ := List.head?_eq_some_iff.mp dash
  have plain : knotName? line.trim = none := by simp [marked, knotName?]
  have again : BlockDraft.read line.trim = BlockDraft.read line := by
    rw [BlockDraft.read, BlockDraft.read, Text.trim_trim]
  rw [(feed_within present plain).1, KnotDraft.next, if_neg (by simp [marked]), ← again, marked,
    KnotDraft.feed]
  cases BlockDraft.read ('-' :: rest) with
  | error fault => simp
  | ok block => simp

/-- A choice whose braces do not match is refused, and so is the first line of a block, exactly if the
braces are not stray. A choice may also be refused for something else. -/
theorem unmatched_braces_refused_unless_stray (line : Text) :
    (¬(Choice.searched line).Balanced →
      ((∃ error, Choice.read line = .error error) ↔
        ¬Stray (Choice.searched line) ∨ Choice.FaultyElsewhere line)) ∧
    ∀ (reader : Reader) (knot : KnotDraft), reader.current = some knot →
      line.trim.head? = some '-' → ¬(BlockDraft.searched line).Balanced →
        ((∃ error, (reader.feed line).2 = some error) ↔ ¬Stray (BlockDraft.searched line)) := by
  constructor
  · intro unbalanced
    rw [Choice.exists_error_iff, takeCondition_of_unbalanced unbalanced]
  · intro reader knot present dash unbalanced
    rw [Reader.exists_error_of_dash present dash, BlockDraft.exists_error_iff,
      takeCondition_of_unbalanced unbalanced]

theorem unmatched_braces_refused_unless_stray_stile :
    (∃ error, Choice.read "* \x7bgate == true Climb -> field" = .error error) ∧
      ∃ error, ((Reader.feedAll {} ["=== stile ==="]).feed "- Steps. \x7b up").2 = some error := by
  have choice := (unmatched_braces_refused_unless_stray "* \x7bgate == true Climb -> field").1
    (by decide +kernel)
  have block := (unmatched_braces_refused_unless_stray "- Steps. \x7b up").2
    (Reader.feedAll {} ["=== stile ==="]) { name := "stile" } (by decide +kernel) (by decide +kernel)
    (by decide +kernel)
  exact ⟨choice.mpr (Or.inl (not_stray_of_unclosed (by decide +kernel) (by decide +kernel))),
    block.mpr (not_stray_of_unclosed (by decide +kernel) (by decide +kernel))⟩

theorem unmatched_braces_accepted_latch :
    ¬(Choice.searched "* key == true\x7d Open -> hall").Balanced ∧
      Choice.read "* key == true\x7d Open -> hall" =
        .ok { text := "key == true\x7d Open", condition := [], changes := [],
              target := some "hall".toList, stitch := none } ∧
      ¬(BlockDraft.searched "- key == true\x7d Unlocked.").Balanced ∧
      ((Reader.feedAll {} ["=== door ==="]).feed "- key == true\x7d Unlocked.").2 = none := by
  decide +kernel

end Knotwork
