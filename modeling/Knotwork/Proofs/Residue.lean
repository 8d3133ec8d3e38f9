import Knotwork.Proofs.Feeding
import Knotwork.Proofs.Grammar

/-! What a faulty line leaves behind in a reader. Main statement: nothing that was read is lost or
changed. A faulty declaration has declared the names before the faulty one, and a faulty choice has
closed the open block; any other faulty line leaves the reader as it was. -/

namespace Knotwork

structure KnotDraft.SameContent (knot later : KnotDraft) : Prop where
  name : later.name = knot.name
  scene : later.scene = knot.scene
  blocks : later.blocks = knot.blocks
  choices : later.choices = knot.choices
  isEnd : later.isEnd = knot.isEnd

theorem KnotDraft.SameContent.refl (knot : KnotDraft) : knot.SameContent knot :=
  ⟨rfl, rfl, rfl, rfl, rfl⟩

theorem KnotDraft.sameContent_close (knot : KnotDraft) : knot.SameContent knot.close :=
  ⟨rfl, rfl, by simp [close, blocks], rfl, rfl⟩

theorem KnotDraft.feed_of_fault {knot : KnotDraft} {line : Text} {error : ParseError}
    (failed : (knot.feed line).2 = some error) :
    (line.head? = some '*' ∧ (knot.feed line).1 = knot.close) ∨
      (line.head? = some '-' ∧ (knot.feed line).1 = knot) := by
  unfold feed at failed ⊢
  split at failed
  · cases failed
  · left
    split at failed
    · cases failed
    · simp
  · right
    split at failed
    · cases failed
    · simp
  · split at failed
    · cases failed
    · cases failed

namespace Reader

def openBlock (reader : Reader) : Option BlockDraft := reader.current.bind KnotDraft.opened

def declaration? (reader : Reader) (line : Text) : Option (Discipline × List Text) :=
  match reader.current, line.trim with
  | none, '/' :: '/' :: content =>
      (Text.cut? [':'] content).bind fun entry =>
        (disciplineOfKey? entry.1.trim).map fun discipline => (discipline, namesIn entry.2.trim)
  | _, _ => none

theorem checkNames_of_fault {names : List Text} {error : ParseError}
    (failed : (checkNames names).2 = some error) :
    ∃ bad after, names = (checkNames names).1 ++ bad :: after ∧ ¬VariableName bad := by
  induction names with
  | nil => cases failed
  | cons name rest ih =>
      unfold checkNames at failed ⊢
      cases checked : checkName .script [] name with
      | error fault =>
          refine ⟨name, rest, rfl, ?_⟩
          intro valid
          have accepted : checkName .script [] name = .ok name :=
            checkName_eq_ok_iff.mpr ⟨rfl, valid.nonempty, valid.unreserved⟩
          rw [accepted] at checked
          cases checked
      | ok same =>
          obtain ⟨rfl, _⟩ := checkName_eq_ok checked
          rw [checked] at failed
          obtain ⟨bad, after, split, invalid⟩ := ih failed
          exact ⟨bad, after, congrArg (same :: ·) split, invalid⟩

inductive Refused (reader : Reader) (line : Text) : Reader → Prop
  | declaration {discipline : Discipline} {before after : List Text} {bad : Text} :
      reader.declaration? line = some (discipline, before ++ bad :: after) →
      (∀ name ∈ before, VariableName name) → ¬VariableName bad →
      Refused reader line { reader with declared := declare reader.declared discipline before }
  | heading {name : Text} : knotName? line.trim = some name → Refused reader line reader
  | choice {knot : KnotDraft} (present : reader.current = some knot) :
      line.trim.head? = some '*' → Refused reader line (reader.amend knot knot.close present rfl)
  | block {knot : KnotDraft} : reader.current = some knot → line.trim.head? = some '-' →
      Refused reader line reader

theorem header_of_fault {reader : Reader} {content : Text} {error : ParseError}
    (failed : (reader.header content).2 = some error) :
    ∃ key value discipline bad after,
      Text.cut? [':'] content = some (key, value) ∧ disciplineOfKey? key.trim = some discipline ∧
        namesIn value.trim = (checkNames (namesIn value.trim)).1 ++ bad :: after ∧
        ¬VariableName bad ∧
        (reader.header content).1 =
          { reader with
            declared :=
              declare reader.declared discipline (checkNames (namesIn value.trim)).1 } := by
  unfold header at failed ⊢
  split at failed
  · cases failed
  · rename_i key value found
    split at failed
    · rename_i discipline known
      obtain ⟨bad, after, split, invalid⟩ := checkNames_of_fault failed
      exact ⟨key, value, discipline, bad, after, found, known, split, invalid, rfl⟩
    · cases failed

theorem eq_of_parts {first second : Reader} (metadata : first.metadata = second.metadata)
    (declared : first.declared = second.declared) (earlier : first.earlier = second.earlier)
    (current : first.current = second.current) : first = second := by
  cases first
  cases second
  simp only [Reader.mk.injEq]
  exact ⟨metadata, declared, earlier, current⟩

theorem feed_of_fault_before {reader : Reader} (absent : reader.current = none) {line : Text}
    (plain : knotName? line.trim = none) {error : ParseError}
    (failed : (reader.feed line).2 = some error) :
    ∃ content, line.trim = '/' :: '/' :: content ∧ reader.feed line = reader.header content := by
  unfold feed at failed ⊢
  dsimp only at failed ⊢
  split at failed
  · split at failed
    · rename_i content same
      exact ⟨content, same, rfl⟩
    · rw [plain] at failed
      cases failed
  · rename_i present
    rw [absent] at present
    cases present

theorem refused_of_fault {reader : Reader} {line : Text} {error : ParseError}
    (failed : (reader.feed line).2 = some error) : reader.Refused line (reader.feed line).1 := by
  cases heading : knotName? line.trim with
  | some name =>
      rw [feed_heading reader heading] at failed ⊢
      rw [startKnot_of_fault failed]
      exact .heading heading
  | none =>
      cases present : reader.current with
      | none =>
          obtain ⟨content, remark, same⟩ := feed_of_fault_before present heading failed
          rw [same] at failed ⊢
          obtain ⟨key, value, discipline, bad, after, found, known, split, invalid, left⟩ :=
            header_of_fault failed
          have listed : reader.declaration? line =
              some (discipline, (checkNames (namesIn value.trim)).1 ++ bad :: after) := by
            rw [declaration?, present, remark]
            simp only [found, Option.bind_some, known, Option.map_some]
            rw [← split]
          rw [left]
          exact .declaration listed
            (variableName_of_mem_checkNames fun _ => trimmed_of_mem_namesIn) invalid
      | some knot =>
          obtain ⟨same, metadata, declared, earlier, current⟩ := feed_within present heading
          rw [same, KnotDraft.next] at failed
          rw [KnotDraft.next] at current
          split at failed
          · cases failed
          · rename_i filled
            rw [if_neg filled] at current
            rcases KnotDraft.feed_of_fault failed with ⟨star, closed⟩ | ⟨dash, kept⟩
            · have left : (reader.feed line).1 = reader.amend knot knot.close present rfl :=
                eq_of_parts metadata declared earlier (current.trans (congrArg some closed))
              rw [left]
              exact .choice present star
            · have left : (reader.feed line).1 = reader :=
                eq_of_parts metadata declared earlier
                  (current.trans ((congrArg some kept).trans present.symm))
              rw [left]
              exact .block present dash

structure Remains (reader : Reader) (line : Text) (later : Reader) : Prop where
  metadata : later.metadata = reader.metadata
  knots : List.Forall₂ KnotDraft.SameContent reader.knots later.knots
  current : Option.Rel KnotDraft.SameContent reader.current later.current
  undeclared : reader.declaration? line = none → later.declared = reader.declared
  declared : ∀ discipline names, reader.declaration? line = some (discipline, names) →
    ∃ before bad after, names = before ++ bad :: after ∧ (∀ name ∈ before, VariableName name) ∧
      ¬VariableName bad ∧ later.declared = declare reader.declared discipline before
  openBlock : later.openBlock =
    if line.trim.head? = some '*' ∧ knotName? line.trim = none then none else reader.openBlock
  heading : knotName? line.trim ≠ none → later = reader
  block : line.trim.head? = some '-' → later = reader

theorem head?_of_knotName? {line name : Text} (heading : knotName? line = some name) :
    line.head? = some '=' := by
  obtain ⟨⟨rest, rfl⟩, _⟩ := knotName?_eq_some.mp heading
  rfl

theorem of_declaration? {reader : Reader} {line : Text} {listed : Discipline × List Text}
    (found : reader.declaration? line = some listed) :
    reader.current = none ∧ line.trim.head? = some '/' := by
  unfold declaration? at found
  split at found
  · rename_i absent remark
    exact ⟨absent, by rw [remark]; rfl⟩
  · cases found

theorem knotName?_eq_none {line : Text} {c : Char} (starts : line.head? = some c) (other : c ≠ '=') :
    knotName? line = none := by
  rw [Option.eq_none_iff_forall_ne_some]
  intro name heading
  have equals := head?_of_knotName? heading
  rw [starts, Option.some.injEq] at equals
  exact other equals

theorem declaration?_eq_none {reader : Reader} {line : Text} {c : Char}
    (starts : line.trim.head? = some c) (other : c ≠ '/') : reader.declaration? line = none := by
  rw [Option.eq_none_iff_forall_ne_some]
  intro listed found
  have slash := (of_declaration? found).2
  rw [starts, Option.some.injEq] at slash
  exact other slash

theorem sameContent_knots (reader : Reader) :
    List.Forall₂ KnotDraft.SameContent reader.knots reader.knots :=
  List.forall₂_same.mpr fun knot _ => .refl knot

theorem sameContent_current (reader : Reader) :
    Option.Rel KnotDraft.SameContent reader.current reader.current := by
  cases reader.current with
  | none => exact .none
  | some knot => exact .some (.refl knot)

theorem remains_self {reader : Reader} {line : Text} {c : Char}
    (starts : line.trim.head? = some c) (slash : c ≠ '/') (star : c ≠ '*') :
    reader.Remains line reader where
  metadata := rfl
  knots := reader.sameContent_knots
  current := reader.sameContent_current
  undeclared _ := rfl
  declared discipline names found := by
    rw [declaration?_eq_none starts slash] at found
    cases found
  openBlock := by simp [starts, star]
  heading _ := rfl
  block _ := rfl

theorem Refused.remains {reader later : Reader} {line : Text} (refused : reader.Refused line later) :
    reader.Remains line later := by
  cases refused with
  | @declaration discipline before after bad listed valid invalid =>
      have starts := (of_declaration? listed).2
      constructor
      · rfl
      · exact reader.sameContent_knots
      · exact reader.sameContent_current
      · intro none
        rw [listed] at none
        cases none
      · intro _ _ found
        rw [listed] at found
        cases found
        exact ⟨before, bad, after, rfl, valid, invalid, rfl⟩
      · rw [starts, if_neg (by simp)]
        rfl
      · intro heading
        exact absurd (knotName?_eq_none starts (by decide)) heading
      · intro dash
        rw [starts] at dash
        cases dash
  | heading heading => exact remains_self (head?_of_knotName? heading) (by decide) (by decide)
  | block _ dash => exact remains_self dash (by decide) (by decide)
  | @choice knot present star =>
      constructor
      · rfl
      · have last : (reader.amend knot knot.close present rfl).knots =
            reader.earlier ++ [knot.close] := knots_of_current rfl
        rw [knots_of_current present, last]
        exact List.rel_append (List.forall₂_same.mpr fun other _ => .refl other)
          (.cons knot.sameContent_close .nil)
      · rw [present]
        exact .some knot.sameContent_close
      · intro _
        rfl
      · intro _ _ found
        rw [declaration?_eq_none star (by decide)] at found
        cases found
      · rw [if_pos ⟨star, knotName?_eq_none star (by decide)⟩]
        rfl
      · intro heading
        exact absurd (knotName?_eq_none star (by decide)) heading
      · intro dash
        rw [star] at dash
        cases dash

end Reader

/-- Whatever a reader has read, a faulty line takes nothing of it away. Metadata, knots and the present
knot hold what they held. A faulty declaration has declared the names before the first one that may not
be declared, and no others. The open block is closed by a faulty choice only. A faulty heading and a
faulty block change nothing at all. -/
theorem faulty_line_keeps_what_was_read {reader : Reader} {line : Text} {error : ParseError}
    (failed : (reader.feed line).2 = some error) : reader.Remains line (reader.feed line).1 :=
  (Reader.refused_of_fault failed).remains

theorem faulty_line_keeps_what_was_read_ledger :
    (Reader.feedAll {} ["// STATES: key"]).Remains "// FLAG-STATES: lit, a=b, gone"
        ((Reader.feedAll {} ["// STATES: key"]).feed "// FLAG-STATES: lit, a=b, gone").1 ∧
      ((Reader.feedAll {} ["// STATES: key"]).feed "// FLAG-STATES: lit, a=b, gone").1.declared =
        { globals := ["key"], flags := ["lit"] } := by
  have failed : ((Reader.feedAll {} ["// STATES: key"]).feed "// FLAG-STATES: lit, a=b, gone").2 =
      some { grammar := .script, fault := .reservedInName "a=b" ['='] } := by
    decide +kernel
  exact ⟨faulty_line_keeps_what_was_read failed, by decide +kernel⟩

end Knotwork
