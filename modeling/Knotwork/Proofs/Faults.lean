import Knotwork.Proofs.Sections

/-! Which fault of a script is reported, and where. Main statement: reading fails exactly if some line
is faulty, the first such line is the one reported, with its number and as it is written, and nothing
that is read on the way is ever objected to by a check of its own. -/

namespace Knotwork

def Unplaced {α : Type} (result : Except ParseError α) : Prop :=
  ∀ error, result = .error error → error.lineNumber = 0

section Unplaced

variable {α β : Type}

theorem unplaced_ok (value : α) : Unplaced (.ok value) := by
  intro error failed
  cases failed

theorem unplaced_error (grammar : Grammar) (fault : Fault) (line : Text) :
    Unplaced (.error { grammar, fault, line } : Except ParseError α) := by
  intro error failed
  cases failed
  rfl

theorem Unplaced.bind {result : Except ParseError α} {next : α → Except ParseError β}
    (first : Unplaced result) (later : ∀ value, Unplaced (next value)) :
    Unplaced (result >>= next) := by
  cases result with
  | ok value => exact later value
  | error fault =>
      intro error failed
      cases failed
      exact first fault rfl

theorem Unplaced.mapM {action : α → Except ParseError β} (each : ∀ item, Unplaced (action item))
    (items : List α) : Unplaced (items.mapM action) := by
  intro error failed
  obtain ⟨item, _, found⟩ := exists_of_mapM_eq_error failed
  exact each item error found

end Unplaced

theorem unplaced_checkName (grammar : Grammar) (source name : Text) :
    Unplaced (checkName grammar source name) := by
  unfold checkName
  split
  · exact unplaced_error _ _ _
  · split
    · exact unplaced_ok _
    · exact unplaced_error _ _ _

theorem Change.unplaced_read (source : Text) : Unplaced (Change.read source) := by
  unfold Change.read
  split
  · exact unplaced_error _ _ _
  · split
    · exact unplaced_error _ _ _
    · split
      · exact unplaced_error _ _ _
      · exact (unplaced_checkName _ _ _).bind fun _ => unplaced_ok _

theorem Comparison.unplaced_ofSides (source : Text) (negated : Bool) (name word : Text) :
    Unplaced (Comparison.ofSides source negated name word) := by
  unfold Comparison.ofSides
  split
  · exact unplaced_error _ _ _
  · refine (unplaced_checkName _ _ _).bind fun _ => ?_
    split
    · exact unplaced_ok _
    · exact unplaced_error _ _ _

theorem Comparison.unplaced_read (source part : Text) : Unplaced (Comparison.read source part) := by
  unfold Comparison.read
  split
  · exact unplaced_ofSides _ _ _ _
  · split
    · exact unplaced_ofSides _ _ _ _
    · exact unplaced_error _ _ _

theorem Condition.unplaced_read (source : Text) : Unplaced (Condition.read source) := by
  have parts (part : Text) : Unplaced (Condition.readPart source part) := by
    unfold Condition.readPart
    split
    · exact unplaced_error _ _ _
    · exact Comparison.unplaced_read _ _
  unfold Condition.read
  split
  · exact unplaced_ok _
  · exact (Unplaced.mapM parts _).bind fun _ => unplaced_ok _

theorem unplaced_takeCondition (source : Text) : Unplaced (takeCondition source) := by
  unfold takeCondition
  split
  · exact unplaced_ok _
  · split
    · exact unplaced_error _ _ _
    · split
      · exact unplaced_error _ _ _
      · exact (Condition.unplaced_read _).bind fun _ => unplaced_ok _

theorem unplaced_takeArrow (source : Text) : Unplaced (takeArrow source) := by
  unfold takeArrow
  split
  · exact unplaced_ok _
  · split
    · exact unplaced_error _ _ _
    · exact unplaced_ok _
    · exact unplaced_ok _

theorem Choice.unplaced_read (line : Text) : Unplaced (Choice.read line) := by
  unfold Choice.read
  refine (unplaced_takeArrow _).bind fun taken => ?_
  refine (Unplaced.mapM Change.unplaced_read _).bind fun changes => ?_
  refine (unplaced_takeCondition _).bind fun rest => ?_
  dsimp only
  split
  · exact unplaced_error _ _ _
  · exact unplaced_ok _

theorem BlockDraft.unplaced_read (line : Text) : Unplaced (BlockDraft.read line) := by
  unfold BlockDraft.read
  exact (unplaced_takeCondition _).bind fun _ => unplaced_ok _

theorem KnotDraft.unplaced_feed {knot : KnotDraft} {line : Text} {fault : ParseError}
    (failed : (knot.feed line).2 = some fault) : fault.lineNumber = 0 := by
  unfold KnotDraft.feed at failed
  split at failed
  · cases failed
  · split at failed
    · cases failed
    · rename_i refused
      cases failed
      exact Choice.unplaced_read _ _ refused
  · split at failed
    · cases failed
    · rename_i refused
      cases failed
      exact BlockDraft.unplaced_read _ _ refused
  · split at failed
    · cases failed
    · cases failed

namespace Reader

theorem unplaced_checkNames {names : List Text} {fault : ParseError}
    (failed : (checkNames names).2 = some fault) : fault.lineNumber = 0 := by
  induction names with
  | nil => cases failed
  | cons name rest ih =>
      unfold checkNames at failed
      split at failed
      · exact ih failed
      · rename_i refused
        cases failed
        exact unplaced_checkName _ _ _ _ refused

theorem unplaced_header {reader : Reader} {content : Text} {fault : ParseError}
    (failed : (reader.header content).2 = some fault) : fault.lineNumber = 0 := by
  unfold header at failed
  split at failed
  · cases failed
  · split at failed
    · exact unplaced_checkNames failed
    · cases failed

theorem unplaced_startKnot {reader : Reader} {name : Text} {fault : ParseError}
    (failed : (reader.startKnot name).2 = some fault) : fault.lineNumber = 0 := by
  rw [startKnot_fault] at failed
  split_ifs at failed
  all_goals
    cases failed
    rfl

theorem unplaced_feed {reader : Reader} {line : Text} {fault : ParseError}
    (failed : (reader.feed line).2 = some fault) : fault.lineNumber = 0 := by
  cases heading : knotName? line.trim with
  | some name =>
      rw [feed_heading reader heading] at failed
      exact unplaced_startKnot failed
  | none =>
      cases present : reader.current with
      | some knot =>
          rw [(feed_within present heading).1] at failed
          unfold KnotDraft.next at failed
          split at failed
          · cases failed
          · exact KnotDraft.unplaced_feed failed
      | none =>
          unfold feed at failed
          dsimp only at failed
          split at failed
          · split at failed
            · exact unplaced_header failed
            · rw [heading] at failed
              cases failed
          · rename_i standing
            rw [present] at standing
            cases standing

/-- Where a reader that is fed some lines meets a fault: at the line of an index, after all lines
before it, faulty ones included. -/
def FaultAt (reader : Reader) (lines : List Text) (index : Nat) (line : Text) (fault : ParseError) :
    Prop :=
  lines[index]? = some line ∧ ((reader.feedAll (lines.take index)).feed line).2 = some fault

theorem faultAt_zero {reader : Reader} {line other : Text} {rest : List Text} {fault : ParseError} :
    reader.FaultAt (line :: rest) 0 other fault ↔
      line = other ∧ (reader.feed line).2 = some fault := by
  simp only [FaultAt, List.getElem?_cons_zero, Option.some.injEq, List.take_zero]
  constructor
  · rintro ⟨rfl, failed⟩
    exact ⟨rfl, failed⟩
  · rintro ⟨rfl, failed⟩
    exact ⟨rfl, failed⟩

theorem faultAt_succ {reader : Reader} {line other : Text} {rest : List Text} {index : Nat}
    {fault : ParseError} :
    reader.FaultAt (line :: rest) (index + 1) other fault ↔
      (reader.feed line).1.FaultAt rest index other fault := by
  simp only [FaultAt, List.getElem?_cons_succ, List.take_succ_cons]
  rfl

theorem readFrom_eq_ok {reader last : Reader} {number : Nat} {lines : List Text} :
    reader.readFrom number lines = .ok last ↔
      (∀ index line fault, ¬reader.FaultAt lines index line fault) ∧
        last = reader.feedAll lines := by
  induction lines generalizing reader number with
  | nil => simp [readFrom, FaultAt, feedAll, eq_comm]
  | cons line rest ih =>
      rw [readFrom_cons_eq_ok, ih]
      constructor
      · rintro ⟨clear, later, finished⟩
        refine ⟨?_, finished⟩
        rintro (_ | index) other fault at_
        · have failed := (faultAt_zero.mp at_).2
          rw [clear] at failed
          cases failed
        · exact later index other fault (faultAt_succ.mp at_)
      · rintro ⟨none, finished⟩
        refine ⟨?_, ?_, finished⟩
        · rw [Option.eq_none_iff_forall_ne_some]
          intro fault failed
          exact none 0 line fault (faultAt_zero.mpr ⟨rfl, failed⟩)
        · intro index other fault at_
          exact none (index + 1) other fault (faultAt_succ.mpr at_)

theorem faultAt_append {reader : Reader} {before after : List Text} {index : Nat}
    (within : index < before.length) {line : Text} {fault : ParseError} :
    reader.FaultAt (before ++ after) index line fault ↔ reader.FaultAt before index line fault := by
  unfold FaultAt
  rw [List.getElem?_append_left within, List.take_append_of_le_length within.le]

theorem first_fault_of_error {reader : Reader} {number : Nat} {lines : List Text}
    {error : ParseError} (failed : reader.readFrom number lines = .error error) :
    ∃ index line fault, reader.FaultAt lines index line fault ∧
      (∀ earlier < index, ∀ other before, ¬reader.FaultAt lines earlier other before) ∧
      error = fault.locate (number + index : Nat) line := by
  obtain ⟨before, line, after, last, fault, rfl, read, found, rfl⟩ := readFrom_eq_error failed
  obtain ⟨clear, rfl⟩ := readFrom_eq_ok.mp read
  refine ⟨before.length, line, fault, ⟨?_, ?_⟩, ?_, rfl⟩
  · simp
  · rw [List.take_left]
    exact found
  · intro earlier less other reported met
    exact clear earlier other reported ((faultAt_append less).mp met)

end Reader

/-- What goes wrong in reading a script is told completely. Reading fails exactly if some line is
faulty to a reader that is fed all lines in order. The error is then that of the first faulty line:
its grammar and fault are those that the line was refused for, which had no place before, and its
place is the number of that line, counted from one, with the line as it is written. And a fault is
all that can go wrong: no change, choice or script that is made on the way is objected to. -/
theorem first_fault_is_reported (source : Text) :
    ((∃ error, Script.read source = .error error) ↔
      ∃ index line fault, Reader.FaultAt {} source.lines index line fault) ∧
    (∀ error, Script.read source = .error error →
      ∃ index line fault, Reader.FaultAt {} source.lines index line fault ∧
        (∀ earlier < index, ∀ other before,
          ¬Reader.FaultAt {} source.lines earlier other before) ∧
        error.grammar = fault.grammar ∧ error.fault = fault.fault ∧ fault.lineNumber = 0 ∧
        error.lineNumber = index + 1 ∧ error.line = line) ∧
    (∀ script, Script.read source = .ok script →
      (Reader.feedAll {} source.lines).outline.check = .ok script) ∧
    (∀ line choice, Choice.read line = .ok choice → choice.issues = []) ∧
    ∀ piece change, Change.read piece = .ok change → change.issues = [] := by
  refine ⟨?_, ?_, ?_, ?_, ?_⟩
  · constructor
    · rintro ⟨error, failed⟩
      obtain ⟨index, line, fault, met, _⟩ :=
        Reader.first_fault_of_error (Script.read_eq_error.mp failed)
      exact ⟨index, line, fault, met⟩
    · rintro ⟨index, line, fault, met⟩
      cases outcome : Script.read source with
      | error error => exact ⟨error, rfl⟩
      | ok script =>
          obtain ⟨reader, read, _⟩ := Script.read_eq_ok.mp outcome
          exact absurd met ((Reader.readFrom_eq_ok.mp read).1 index line fault)
  · intro error failed
    obtain ⟨index, line, fault, met, first, rfl⟩ :=
      Reader.first_fault_of_error (Script.read_eq_error.mp failed)
    refine ⟨index, line, fault, met, first, rfl, rfl, Reader.unplaced_feed met.2, ?_, rfl⟩
    rw [ParseError.locate, Nat.add_comm]
    rfl
  · intro script read
    obtain ⟨reader, finished, rfl⟩ := Script.read_eq_ok.mp read
    obtain ⟨_, rfl⟩ := Reader.readFrom_eq_ok.mp finished
    exact (Reader.wellFormed_feedAll source.lines).sound.check_outline
  · intro line choice accepted
    exact (Choice.sound_of_read accepted).issues_eq_nil
  · intro piece change accepted
    rw [Change.issues, if_neg (Change.variableName_of_read accepted).nonempty]

example :
    (match Script.read "=== hall ===\nDark.\n  === a|b ===\n* Go ->" with
      | .ok _ => none
      | .error error => some error) =
      some
        { grammar := .script, fault := .reservedInKnotName, lineNumber := 3,
          line := "  === a|b ===" } := by
  decide +kernel

end Knotwork
