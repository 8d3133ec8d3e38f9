import Knotwork.Value.Json
import Mathlib.Algebra.Group.Nat.Defs
import Mathlib.Data.List.Basic

/-! Indented JSON tells values apart. Main statement: the text of a document can be told off the front
of any longer text, so no two documents have the same text, whatever the texts inside them look like. -/

namespace Knotwork

section Codes

variable {α : Type}

/-- Two codes are told off the front of longer texts: where those are the same, so are the items and
what follows them. -/
def Told (code : α → Text) (one other : α) : Prop :=
  ∀ rest tail, code one ++ rest = code other ++ tail → one = other ∧ rest = tail

theorem told_flatMap {code : α → Text} {stop : Char}
    (unstopped : ∀ item, ∃ first body, code item = first :: body ∧ first ≠ stop)
    {ones others : List α} (told : ∀ one ∈ ones, ∀ other ∈ others, Told code one other)
    {rest tail : Text}
    (same : ones.flatMap code ++ stop :: rest = others.flatMap code ++ stop :: tail) :
    ones = others ∧ rest = tail := by
  induction ones generalizing others with
  | nil =>
      cases others with
      | nil => exact ⟨rfl, (List.cons.inj same).2⟩
      | cons other others =>
          obtain ⟨first, body, starts, differs⟩ := unstopped other
          rw [List.flatMap_cons, starts] at same
          exact absurd (List.cons.inj same).1.symm differs
  | cons one ones ih =>
      cases others with
      | nil =>
          obtain ⟨first, body, starts, differs⟩ := unstopped one
          rw [List.flatMap_cons, starts] at same
          exact absurd (List.cons.inj same).1 differs
      | cons other others =>
          rw [List.flatMap_cons, List.flatMap_cons, List.append_assoc, List.append_assoc] at same
          obtain ⟨rfl, remaining⟩ := told one (by simp) other (by simp) _ _ same
          have inner : ∀ one ∈ ones, ∀ other ∈ others, Told code one other :=
            fun one member other otherMember => told one (by simp [member]) other (by simp [otherMember])
          obtain ⟨rfl, ended⟩ := ih inner remaining
          exact ⟨rfl, ended⟩

end Codes

namespace Value

theorem hexDigit_inj : ∀ a < 16, ∀ b < 16, Text.hexDigit a = Text.hexDigit b → a = b := by
  decide

theorem length_hexDigits (width n : Nat) : (Text.hexDigits width n).length = width := by
  induction width generalizing n with
  | zero => rfl
  | succ width ih => simp [Text.hexDigits, ih]

theorem hexDigits_inj {width n m : Nat} (bound : n < 16 ^ width) (otherBound : m < 16 ^ width)
    (same : Text.hexDigits width n = Text.hexDigits width m) : n = m := by
  induction width generalizing n m with
  | zero => omega
  | succ width ih =>
      obtain ⟨upper, last⟩ := List.append_inj' same rfl
      rw [List.cons.injEq] at last
      have digits := hexDigit_inj (n % 16) (by omega) (m % 16) (by omega) last.1
      rw [Nat.pow_succ] at bound otherBound
      have rest := ih (by omega) (by omega) upper
      omega

def escaped (mark : Char) : Char :=
  if mark = 'n' then '\n'
  else if mark = 'r' then '\r'
  else if mark = 't' then '\t'
  else if mark = 'b' then Char.ofNat 8
  else if mark = 'f' then Char.ofNat 12
  else mark

theorem escaped_of_shortEscape? {c : Char} {escape : Text} (found : shortEscape? c = some escape) :
    ∃ mark, escape = ['\\', mark] ∧ mark ≠ 'u' ∧ escaped mark = c := by
  have whole : Char.ofNat c.toNat = c := Char.ofNat_toNat c
  unfold shortEscape? at found
  split_ifs at found with quote backslash feed carriage tab back form
  · cases found
    exact ⟨'"', rfl, by decide, quote.symm⟩
  · cases found
    exact ⟨'\\', rfl, by decide, backslash.symm⟩
  · cases found
    exact ⟨'n', rfl, by decide, feed.symm⟩
  · cases found
    exact ⟨'r', rfl, by decide, carriage.symm⟩
  · cases found
    exact ⟨'t', rfl, by decide, tab.symm⟩
  · cases found
    rw [back] at whole
    exact ⟨'b', rfl, by decide, whole⟩
  · cases found
    rw [form] at whole
    exact ⟨'f', rfl, by decide, whole⟩

theorem jsonChar_cases (c : Char) :
    (jsonChar c = [c] ∧ c ≠ '\\' ∧ c ≠ '"') ∨
      (∃ mark, jsonChar c = ['\\', mark] ∧ mark ≠ 'u' ∧ escaped mark = c) ∨
      (jsonChar c = '\\' :: 'u' :: Text.hexDigits 4 c.toNat ∧ c.toNat < 0x20) := by
  unfold jsonChar
  split
  · rename_i escape found
    obtain ⟨mark, rfl, unnumbered, stands⟩ := escaped_of_shortEscape? found
    exact Or.inr (Or.inl ⟨mark, rfl, unnumbered, stands⟩)
  · rename_i plain
    split
    · rename_i control
      exact Or.inr (Or.inr ⟨rfl, control⟩)
    · refine Or.inl ⟨rfl, ?_, ?_⟩
      · rintro rfl
        simp [shortEscape?] at plain
      · rintro rfl
        simp [shortEscape?] at plain

theorem told_jsonChar (c d : Char) : Told jsonChar c d := by
  intro rest tail same
  rcases jsonChar_cases c with ⟨written, unescaped, _⟩ | ⟨mark, written, unnumbered, stands⟩ |
    ⟨written, bound⟩ <;>
  rcases jsonChar_cases d with ⟨twin, twinUnescaped, _⟩ | ⟨other, twin, twinUnnumbered, twinStands⟩ |
    ⟨twin, twinBound⟩ <;>
  rw [written, twin] at same
  · exact List.cons.inj same
  · exact absurd (List.cons.inj same).1 unescaped
  · exact absurd (List.cons.inj same).1 unescaped
  · exact absurd (List.cons.inj same).1.symm twinUnescaped
  · obtain ⟨rfl, ended⟩ := List.cons.inj (List.cons.inj same).2
    exact ⟨stands.symm.trans twinStands, ended⟩
  · exact absurd (List.cons.inj (List.cons.inj same).2).1 unnumbered
  · exact absurd (List.cons.inj same).1.symm twinUnescaped
  · exact absurd (List.cons.inj (List.cons.inj same).2).1.symm twinUnnumbered
  · have digits := (List.cons.inj (List.cons.inj same).2).2
    obtain ⟨number, ended⟩ := List.append_inj digits (by simp [length_hexDigits])
    have codes := hexDigits_inj (by omega) (by omega) number
    refine ⟨?_, ended⟩
    rw [← Char.ofNat_toNat c, ← Char.ofNat_toNat d, codes]

theorem told_jsonString (one other : Text) : Told (jsonString jsonChar) one other := by
  intro rest tail same
  have unstopped (c : Char) : ∃ first body, jsonChar c = first :: body ∧ first ≠ '"' := by
    rcases jsonChar_cases c with ⟨written, _, unquoted⟩ | ⟨mark, written, _⟩ | ⟨written, _⟩
    · exact ⟨c, [], written, unquoted⟩
    · exact ⟨'\\', _, written, by decide⟩
    · exact ⟨'\\', _, written, by decide⟩
  simp only [jsonString, List.cons_append, List.append_assoc, List.nil_append, List.cons.injEq,
    true_and] at same
  exact told_flatMap unstopped (fun c _ d _ => told_jsonChar c d) same

inductive IsDocument : Value → Prop
  | bool (value) : IsDocument (.bool value)
  | text (value) : IsDocument (.text value)
  | list {items} : (∀ item ∈ items, IsDocument item) → IsDocument (.list items)
  | record {members} : (∀ member ∈ members, IsDocument member.2) → IsDocument (.record members)

def itemText (level : Nat) (item : Value) : Text := ',' :: (newline level ++ indented level item)

def memberText (level : Nat) (member : Text × Value) : Text :=
  ',' :: (newline level ++ jsonString jsonChar member.1 ++ ": " ++ indented level member.2)

def enclosed (left right : Char) (level : Nat) (parts : Text) : Text :=
  if parts = [] then [left, right] else left :: (parts.tail ++ newline level ++ [right])

theorem indented_list (level : Nat) (items : List Value) :
    indented level (.list items) =
      enclosed '[' ']' level (items.flatMap (itemText (level + 1))) := by
  have later (items : List Value) :
      indentedItems (level + 1) items = items.flatMap (itemText (level + 1)) := by
    induction items with
    | nil => simp [indentedItems]
    | cons item rest ih => simp [indentedItems, itemText, ih]
  cases items with
  | nil => simp [indented, enclosed]
  | cons item rest => simp [indented, enclosed, itemText, later]

theorem indented_record (level : Nat) (members : List (Text × Value)) :
    indented level (.record members) =
      enclosed '{' '}' level (members.flatMap (memberText (level + 1))) := by
  have later (members : List (Text × Value)) :
      indentedMembers (level + 1) (members.map fun member => (.text member.1, member.2)) =
        members.flatMap (memberText (level + 1)) := by
    induction members with
    | nil => simp [indentedMembers]
    | cons member rest ih => simp [indentedMembers, memberText, jsonKey, ih]
  have named : record members = .map (members.map fun member => (.text member.1, member.2)) := rfl
  rw [named]
  cases members with
  | nil => simp [indented, enclosed]
  | cons member rest => simp [indented, enclosed, memberText, jsonKey, later]

theorem told_enclosed {α : Type} {code : α → Text} {left right : Char} {level : Nat}
    (closes : right ≠ '\n') (starts : ∀ item, ∃ body, code item = ',' :: '\n' :: body)
    {ones others : List α} (told : ∀ one ∈ ones, ∀ other ∈ others, Told code one other)
    {rest tail : Text}
    (same : enclosed left right level (ones.flatMap code) ++ rest =
      enclosed left right level (others.flatMap code) ++ tail) :
    ones = others ∧ rest = tail := by
  have filled (item : α) (items : List α) :
      ∃ body, (item :: items).flatMap code = ',' :: '\n' :: body := by
    obtain ⟨body, written⟩ := starts item
    exact ⟨body ++ items.flatMap code, by rw [List.flatMap_cons, written]; rfl⟩
  cases ones with
  | nil =>
      cases others with
      | nil => exact ⟨rfl, List.append_cancel_left same⟩
      | cons other others =>
          obtain ⟨body, parts⟩ := filled other others
          rw [parts] at same
          exact absurd (List.cons.inj (List.cons.inj same).2).1 closes
  | cons one ones =>
      obtain ⟨body, parts⟩ := filled one ones
      cases others with
      | nil =>
          rw [parts] at same
          exact absurd (List.cons.inj (List.cons.inj same).2).1.symm closes
      | cons other others =>
          obtain ⟨twin, otherParts⟩ := filled other others
          have unstopped (item : α) : ∃ first body, code item = first :: body ∧ first ≠ '\n' := by
            obtain ⟨body, written⟩ := starts item
            exact ⟨',', _, written, by decide⟩
          -- With its first comma back, either side is a row of parts up to a line break.
          have rows : (one :: ones).flatMap code ++ '\n' :: (List.replicate (2 * level) ' ' ++
              right :: rest) = (other :: others).flatMap code ++ '\n' ::
              (List.replicate (2 * level) ' ' ++ right :: tail) := by
            rw [parts, otherParts] at same ⊢
            simp only [enclosed, newline, reduceCtorEq, if_false, List.tail_cons, List.cons_append,
              List.append_assoc, List.nil_append, List.cons.injEq, true_and] at same ⊢
            exact same
          obtain ⟨items, ended⟩ := told_flatMap unstopped told rows
          exact ⟨items, (List.cons.inj (List.append_cancel_left ended)).2⟩

theorem told_list {level : Nat} {items others : List Value}
    (told : ∀ item ∈ items, ∀ other ∈ others, Told (indented (level + 1)) item other) {rest tail : Text}
    (same : indented level (.list items) ++ rest = indented level (.list others) ++ tail) :
    items = others ∧ rest = tail := by
  have parts : ∀ item ∈ items, ∀ other ∈ others, Told (itemText (level + 1)) item other := by
    intro item member other otherMember rest tail same
    simp only [itemText, List.cons_append, List.append_assoc, List.cons.injEq, true_and] at same
    exact told item member other otherMember rest tail (List.append_cancel_left same)
  rw [indented_list, indented_list] at same
  exact told_enclosed (by decide) (fun item => ⟨_, rfl⟩) parts same

theorem told_record {level : Nat} {members others : List (Text × Value)}
    (told : ∀ member ∈ members, ∀ other ∈ others, Told (indented (level + 1)) member.2 other.2)
    {rest tail : Text}
    (same : indented level (.record members) ++ rest = indented level (.record others) ++ tail) :
    members = others ∧ rest = tail := by
  have parts : ∀ member ∈ members, ∀ other ∈ others,
      Told (memberText (level + 1)) member other := by
    rintro ⟨key, value⟩ member ⟨otherKey, otherValue⟩ otherMember rest tail same
    simp only [memberText, List.cons_append, List.append_assoc, List.cons.injEq, true_and] at same
    obtain ⟨rfl, values⟩ := told_jsonString key otherKey _ _ (List.append_cancel_left same)
    obtain ⟨rfl, ended⟩ := told _ member _ otherMember _ _ (List.append_cancel_left values)
    exact ⟨rfl, ended⟩
  rw [indented_record, indented_record] at same
  exact told_enclosed (by decide) (fun member => ⟨_, rfl⟩) parts same

def lead : Value → Char
  | .bool true => 't'
  | .bool false => 'f'
  | .text _ => '"'
  | .list _ => '['
  | _ => '{'

theorem enclosed_eq_cons (left right : Char) (level : Nat) (parts : Text) :
    ∃ body, enclosed left right level parts = left :: body := by
  unfold enclosed
  split
  · exact ⟨_, rfl⟩
  · exact ⟨_, rfl⟩

theorem IsDocument.indented_eq_cons {value : Value} (document : IsDocument value) (level : Nat) :
    ∃ body, indented level value = value.lead :: body := by
  cases document with
  | bool value =>
      rw [indented]
      cases value
      · exact ⟨_, rfl⟩
      · exact ⟨_, rfl⟩
  | text value =>
      rw [indented]
      exact ⟨_, rfl⟩
  | list _ =>
      rw [indented_list]
      exact enclosed_eq_cons ..
  | record _ =>
      rw [indented_record]
      exact enclosed_eq_cons ..

theorem IsDocument.lead_eq {value twin : Value} (document : IsDocument value)
    (twinDocument : IsDocument twin) {level : Nat} {rest tail : Text}
    (same : indented level value ++ rest = indented level twin ++ tail) : value.lead = twin.lead := by
  obtain ⟨body, written⟩ := document.indented_eq_cons level
  obtain ⟨twinBody, twinWritten⟩ := twinDocument.indented_eq_cons level
  rw [written, twinWritten] at same
  exact (List.cons.inj same).1

theorem IsDocument.told {value twin : Value} (document : IsDocument value)
    (twinDocument : IsDocument twin) (level : Nat) : Told (indented level) value twin := by
  induction document generalizing twin level with
  | bool value =>
      intro rest tail same
      have leads := (IsDocument.bool value).lead_eq twinDocument same
      cases twinDocument with
      | bool other =>
          obtain rfl : value = other := by
            revert leads
            cases value <;> cases other <;> simp [lead]
          exact ⟨rfl, List.append_cancel_left same⟩
      | _ => cases value <;> simp [lead, Value.record] at leads
  | text value =>
      intro rest tail same
      have leads := (IsDocument.text value).lead_eq twinDocument same
      cases twinDocument with
      | text other =>
          rw [indented, indented] at same
          obtain ⟨rfl, ended⟩ := told_jsonString value other rest tail same
          exact ⟨rfl, ended⟩
      | bool other => cases other <;> simp [lead] at leads
      | _ => simp [lead, Value.record] at leads
  | list documents ih =>
      intro rest tail same
      have leads := (IsDocument.list documents).lead_eq twinDocument same
      cases twinDocument with
      | list twins =>
          have told := fun item member other otherMember =>
            ih item member (twins other otherMember) (level + 1)
          obtain ⟨rfl, ended⟩ := told_list told same
          exact ⟨rfl, ended⟩
      | bool other => cases other <;> simp [lead] at leads
      | _ => simp [lead, Value.record] at leads
  | record documents ih =>
      intro rest tail same
      have leads := (IsDocument.record documents).lead_eq twinDocument same
      cases twinDocument with
      | record twins =>
          have told := fun member present other otherPresent =>
            ih member present (twins other otherPresent) (level + 1)
          obtain ⟨rfl, ended⟩ := told_record told same
          exact ⟨rfl, ended⟩
      | bool other => cases other <;> simp [lead, Value.record] at leads
      | _ => simp [lead, Value.record] at leads

theorem IsDocument.toJson_inj {value twin : Value} (document : IsDocument value)
    (twinDocument : IsDocument twin) : value.toJson = twin.toJson ↔ value = twin := by
  constructor
  · intro same
    exact (document.told twinDocument 0 [] [] (congrArg (· ++ []) same)).1
  · exact congrArg toJson

end Value

end Knotwork
