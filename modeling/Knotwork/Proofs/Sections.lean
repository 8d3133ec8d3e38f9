import Knotwork.Proofs.Feeding

/-! A script can be read in sections. Main statement: where a text ends a line and the next one starts
a knot, reading both together has the outcome of reading each, and nothing that the first text leaves
behind shows in the knots of the second. -/

namespace Knotwork

namespace Reader

theorem names_feed {reader : Reader} {line : Text} (clear : (reader.feed line).2 = none) :
    (reader.feed line).1.knots.map KnotDraft.name =
      reader.knots.map KnotDraft.name ++ (knotName? line.trim).toList := by
  cases heading : knotName? line.trim with
  | some name =>
      rw [feed_heading reader heading] at clear ⊢
      obtain ⟨_, _, earlier, current⟩ := startKnot_of_clear clear
      rw [knots_of_current current, earlier, List.map_append]
      rfl
  | none =>
      cases present : reader.current with
      | none =>
          obtain ⟨earlier, current⟩ := feed_before present heading
          simp [knots, earlier, current, present]
      | some knot =>
          obtain ⟨_, _, _, earlier, current⟩ := feed_within present heading
          simp [knots, earlier, current, present, KnotDraft.name_next]

theorem readFrom_cons_of_clear {reader : Reader} {line : Text}
    (clear : (reader.feed line).2 = none) (number : Nat) (rest : List Text) :
    reader.readFrom number (line :: rest) =
      (reader.feed line).1.readFrom (number + 1) rest := by
  rw [readFrom]
  generalize reader.feed line = result at clear
  obtain ⟨next, fault⟩ := result
  cases clear
  rfl

theorem readFrom_cons_of_fault {reader : Reader} {line : Text} {fault : ParseError}
    (failed : (reader.feed line).2 = some fault) (number : Nat) (rest : List Text) :
    reader.readFrom number (line :: rest) = .error (fault.locate number line) := by
  rw [readFrom]
  generalize reader.feed line = result at failed
  obtain ⟨next, other⟩ := result
  cases failed
  rfl

theorem readFrom_cons_eq_ok {reader last : Reader} {line : Text} {number : Nat} {rest : List Text} :
    reader.readFrom number (line :: rest) = .ok last ↔
      (reader.feed line).2 = none ∧ (reader.feed line).1.readFrom (number + 1) rest = .ok last := by
  cases failing : (reader.feed line).2 with
  | none => simp [readFrom_cons_of_clear failing]
  | some fault => simp [readFrom_cons_of_fault failing]

theorem readFrom_append (reader : Reader) (number : Nat) (first second : List Text) :
    reader.readFrom number (first ++ second) =
      reader.readFrom number first >>= (·.readFrom (number + first.length) second) := by
  induction first generalizing reader number with
  | nil => rfl
  | cons line rest ih =>
      cases failing : (reader.feed line).2 with
      | none =>
          rw [List.cons_append, readFrom_cons_of_clear failing, readFrom_cons_of_clear failing, ih,
            List.length_cons, Nat.add_assoc, Nat.add_comm 1]
      | some fault =>
          rw [List.cons_append, readFrom_cons_of_fault failing, readFrom_cons_of_fault failing]
          rfl

theorem readFrom_middle {reader last : Reader} {number : Nat} {before : List Text} {line : Text}
    {after : List Text} (read : reader.readFrom number (before ++ line :: after) = .ok last) :
    ∃ middle, reader.readFrom number before = .ok middle ∧ (middle.feed line).2 = none := by
  rw [readFrom_append, Except.bind_eq_ok] at read
  obtain ⟨middle, middleRead, rest⟩ := read
  exact ⟨middle, middleRead, (readFrom_cons_eq_ok.mp rest).1⟩

theorem readFrom_eq_error {reader : Reader} {number : Nat} {lines : List Text} {error : ParseError}
    (failed : reader.readFrom number lines = .error error) :
    ∃ before line after last fault, lines = before ++ line :: after ∧
      reader.readFrom number before = .ok last ∧ (last.feed line).2 = some fault ∧
      error = fault.locate (number + before.length : Nat) line := by
  induction lines generalizing reader number with
  | nil => cases failed
  | cons line rest ih =>
      cases failing : (reader.feed line).2 with
      | some fault =>
          rw [readFrom_cons_of_fault failing] at failed
          cases failed
          exact ⟨[], line, rest, reader, fault, rfl, rfl, failing, rfl⟩
      | none =>
          rw [readFrom_cons_of_clear failing] at failed
          obtain ⟨before, faulty, after, last, fault, rfl, read, found, rfl⟩ := ih failed
          refine ⟨line :: before, faulty, after, last, fault, rfl, ?_, found, ?_⟩
          · rw [readFrom_cons_of_clear failing]
            exact read
          · rw [List.length_cons, Nat.add_assoc, Nat.add_comm 1]

theorem names_readFrom {reader last : Reader} {number : Nat} {lines : List Text}
    (read : reader.readFrom number lines = .ok last) :
    last.knots.map KnotDraft.name =
      reader.knots.map KnotDraft.name ++ lines.filterMap fun line => knotName? line.trim := by
  induction lines generalizing reader number with
  | nil =>
      cases read
      simp
  | cons line rest ih =>
      obtain ⟨clear, later⟩ := readFrom_cons_eq_ok.mp read
      rw [ih later, names_feed clear, List.append_assoc]
      cases heading : knotName? line.trim <;> simp [heading]

def Fresh (names lines : List Text) : Prop :=
  ∀ line ∈ lines, ∀ name, knotName? line.trim = some name → name ∉ names

theorem fresh_cons {names lines : List Text} {line : Text} :
    Fresh names (line :: lines) ↔
      (∀ name, knotName? line.trim = some name → name ∉ names) ∧ Fresh names lines :=
  List.forall_mem_cons

/-- A reader that has read what another one holds, and after that what a third one has read alone.
Both stand in the same knot, or else the next line starts one. -/
structure Follows (before alone joined : Reader) (ahead : List Text) : Prop where
  metadata : joined.metadata = before.metadata
  declared : joined.declared = before.declared
  knots : joined.knots = before.knots ++ alone.knots
  place : (∃ knot, alone.current = some knot ∧ joined.current = some knot) ∨
    ∃ line rest name, ahead = line :: rest ∧ knotName? line.trim = some name

namespace Follows

variable {before alone joined : Reader} {line : Text} {ahead : List Text}

theorem initial (before : Reader)
    (opens : ∃ line rest name, ahead = line :: rest ∧ knotName? line.trim = some name) :
    Follows before {} before ahead :=
  ⟨rfl, rfl, by simp [Reader.knots], Or.inr opens⟩

theorem names_eq (follows : Follows before alone joined ahead) :
    joined.knots.map KnotDraft.name =
      before.knots.map KnotDraft.name ++ alone.knots.map KnotDraft.name := by
  rw [follows.knots, List.map_append]

theorem present (follows : Follows before alone joined (line :: ahead))
    (plain : knotName? line.trim = none) :
    ∃ knot, alone.current = some knot ∧ joined.current = some knot := by
  rcases follows.place with present | ⟨_, _, name, same, starts⟩
  · exact present
  · cases same
    rw [plain] at starts
    cases starts

theorem startKnot (follows : Follows before alone joined (line :: ahead)) {name : Text}
    (clear : (alone.startKnot name).2 = none) (joinedClear : (joined.startKnot name).2 = none) :
    Follows before (alone.startKnot name).1 (joined.startKnot name).1 ahead := by
  obtain ⟨_, _, earlier, current⟩ := startKnot_of_clear clear
  obtain ⟨metadata, declared, joinedEarlier, joinedCurrent⟩ := startKnot_of_clear joinedClear
  refine ⟨metadata.trans follows.metadata, declared.trans follows.declared, ?_,
    Or.inl ⟨_, current, joinedCurrent⟩⟩
  rw [knots_of_current joinedCurrent, knots_of_current current, joinedEarlier, earlier,
    follows.knots, List.append_assoc]

theorem feed (follows : Follows before alone joined (line :: ahead))
    (fresh : ∀ name, knotName? line.trim = some name → name ∉ before.knots.map KnotDraft.name)
    (clear : (alone.feed line).2 = none) :
    (joined.feed line).2 = none ∧
      Follows before (alone.feed line).1 (joined.feed line).1 ahead := by
  cases heading : knotName? line.trim with
  | some name =>
      rw [feed_heading alone heading] at clear ⊢
      rw [feed_heading joined heading]
      have new := fresh name heading
      have joinedClear : (joined.startKnot name).2 = none := by
        rw [startKnot_fault] at clear ⊢
        simpa only [follows.names_eq, List.mem_append, new, false_or] using clear
      exact ⟨joinedClear, follows.startKnot clear joinedClear⟩
  | none =>
      obtain ⟨knot, present, joinedPresent⟩ := follows.present heading
      obtain ⟨fault, _, _, earlier, current⟩ := feed_within present heading
      obtain ⟨joinedFault, metadata, declared, joinedEarlier, joinedCurrent⟩ :=
        feed_within joinedPresent heading
      refine ⟨joinedFault.trans (fault.symm.trans clear), metadata.trans follows.metadata,
        declared.trans follows.declared, ?_, Or.inl ⟨_, current, joinedCurrent⟩⟩
      have knots := follows.knots
      rw [knots_of_current joinedPresent, knots_of_current present, ← List.append_assoc,
        List.append_left_inj] at knots
      rw [knots_of_current joinedCurrent, knots_of_current current, joinedEarlier, earlier, knots,
        List.append_assoc]

theorem fault (follows : Follows before alone joined (line :: ahead)) {fault : ParseError}
    (failed : (alone.feed line).2 = some fault) : (joined.feed line).2 = some fault := by
  cases heading : knotName? line.trim with
  | some name =>
      rw [feed_heading alone heading, startKnot_fault] at failed
      rw [feed_heading joined heading, startKnot_fault, follows.names_eq]
      split
      · rename_i empty
        rwa [if_pos empty] at failed
      · rename_i nonempty
        rw [if_neg nonempty] at failed
        split
        · rename_i barred
          rwa [if_pos barred] at failed
        · rename_i unbarred
          rw [if_neg unbarred] at failed
          split at failed
          · rename_i known
            rw [if_pos (List.mem_append_right _ known)]
            exact failed
          · cases failed
  | none =>
      obtain ⟨knot, present, joinedPresent⟩ := follows.present heading
      rw [(feed_within joinedPresent heading).1, ← (feed_within present heading).1]
      exact failed

theorem repeated (follows : Follows before alone joined (line :: ahead)) {name : Text}
    (heading : knotName? line.trim = some name) (clear : (alone.feed line).2 = none)
    (known : name ∈ before.knots.map KnotDraft.name) :
    (joined.feed line).2 = some { grammar := .script, fault := .duplicateKnot name } := by
  rw [feed_heading alone heading, startKnot_fault] at clear
  rw [feed_heading joined heading, startKnot_fault, follows.names_eq]
  split at clear
  · cases clear
  · split at clear
    · cases clear
    · rename_i nonempty unbarred
      rw [if_neg nonempty, if_neg unbarred, if_pos (List.mem_append_left _ known)]

theorem readFrom {lines : List Text} (follows : Follows before alone joined (lines ++ ahead))
    (fresh : Fresh (before.knots.map KnotDraft.name) lines) {number : Nat} (other : Nat)
    {last : Reader} (read : alone.readFrom number lines = .ok last) :
    ∃ joinedLast, joined.readFrom other lines = .ok joinedLast ∧
      Follows before last joinedLast ahead := by
  induction lines generalizing alone joined number other with
  | nil =>
      cases read
      exact ⟨joined, rfl, follows⟩
  | cons line rest ih =>
      obtain ⟨clear, read⟩ := readFrom_cons_eq_ok.mp read
      obtain ⟨here, later⟩ := fresh_cons.mp fresh
      obtain ⟨joinedClear, next⟩ := follows.feed here clear
      rw [readFrom_cons_of_clear joinedClear]
      exact ih next later (other + 1) read

end Follows

end Reader

theorem Script.read_eq_ok {source : Text} {script : Script} :
    Script.read source = .ok script ↔
      ∃ reader, Reader.readFrom {} 1 source.lines = .ok reader ∧ reader.toScript = script := by
  rw [Script.read, Except.bind_eq_ok]
  simp [pure, Except.pure]

theorem Script.read_eq_error {source : Text} {error : ParseError} :
    Script.read source = .error error ↔ Reader.readFrom {} 1 source.lines = .error error := by
  unfold Script.read
  cases Reader.readFrom {} 1 source.lines <;> simp [bind, Except.bind, pure, Except.pure]

theorem Reader.knotNames_toScript (reader : Reader) :
    reader.toScript.knotNames = reader.knots.map KnotDraft.name := by
  simp [Script.knotNames, toScript, Function.comp_def, KnotDraft.toKnot]

theorem Script.knotNames_of_read {source : Text} {script : Script}
    (read : Script.read source = .ok script) :
    script.knotNames = source.lines.filterMap fun line => Reader.knotName? line.trim := by
  obtain ⟨reader, finished, rfl⟩ := read_eq_ok.mp read
  rw [reader.knotNames_toScript, Reader.names_readFrom finished]
  rfl

theorem Reader.fresh_iff {names lines : List Text} :
    Fresh names lines ↔
      ∀ name ∈ names, name ∉ lines.filterMap fun line => knotName? line.trim := by
  constructor
  · intro fresh name known started
    obtain ⟨line, member, heading⟩ := List.mem_filterMap.mp started
    exact fresh line member name heading known
  · intro disjoint line member name heading known
    exact disjoint name known (List.mem_filterMap.mpr ⟨line, member, heading⟩)

theorem Reader.exists_first_repeated {names lines : List Text} (stale : ¬Fresh names lines) :
    ∃ before line after name, lines = before ++ line :: after ∧ Fresh names before ∧
      knotName? line.trim = some name ∧ name ∈ names := by
  induction lines with
  | nil => exact absurd (fun _ member => absurd member List.not_mem_nil) stale
  | cons line rest ih =>
      by_cases here : ∀ name, knotName? line.trim = some name → name ∉ names
      · have later : ¬Fresh names rest := fun fresh => stale (fresh_cons.mpr ⟨here, fresh⟩)
        obtain ⟨before, found, after, name, rfl, fresh, heading, known⟩ := ih later
        exact ⟨line :: before, found, after, name, rfl, fresh_cons.mpr ⟨here, fresh⟩, heading, known⟩
      · simp only [not_forall, not_not] at here
        obtain ⟨name, heading, known⟩ := here
        exact ⟨[], line, rest, name, rfl, by simp [Fresh], heading, known⟩

section Joining

variable {first second : Text} {before : Reader}
  (ended : first = [] ∨ first.getLast? = some '\n')
  (finished : Reader.readFrom {} 1 first.lines = .ok before)
  (opens : ∃ line rest name, second.lines = line :: rest ∧
    Reader.knotName? line.trim = some name)

include ended

theorem Script.read_append_of_error {error : ParseError}
    (failed : Script.read first = .error error) : Script.read (first ++ second) = .error error := by
  rw [read_eq_error] at failed ⊢
  rw [Text.lines_append ended, Reader.readFrom_append, failed]
  rfl

include finished

theorem Reader.readFrom_joined :
    readFrom {} 1 (first ++ second).lines =
      before.readFrom (1 + first.lines.length) second.lines := by
  rw [Text.lines_append ended, readFrom_append, finished]
  rfl

include opens

theorem Script.read_append_of_fresh
    (fresh : Reader.Fresh (before.knots.map KnotDraft.name) second.lines) {last : Reader}
    (read : Reader.readFrom {} 1 second.lines = .ok last) :
    ∃ joined, Script.read (first ++ second) = .ok joined.toScript ∧
      Reader.Follows before last joined [] := by
  have follows := Reader.Follows.initial before opens
  rw [← List.append_nil second.lines] at follows
  obtain ⟨joined, joinedRead, joinedFollows⟩ :=
    follows.readFrom fresh (1 + first.lines.length) read
  refine ⟨joined, ?_, joinedFollows⟩
  rw [read_eq_ok]
  exact ⟨joined, (Reader.readFrom_joined ended finished).trans joinedRead, rfl⟩

theorem Script.read_append_of_fault {fed : List Text} {line : Text} {after : List Text}
    (split : second.lines = fed ++ line :: after)
    (fresh : Reader.Fresh (before.knots.map KnotDraft.name) fed) {last : Reader}
    (read : Reader.readFrom {} 1 fed = .ok last) :
    ∃ joined, Reader.Follows before last joined (line :: after) ∧
      ∀ fault, (joined.feed line).2 = some fault →
        Script.read (first ++ second) =
          .error (fault.locate (first.lines.length + (fed.length + 1)) line) := by
  have follows := Reader.Follows.initial before opens
  rw [split] at follows
  obtain ⟨joined, joinedRead, joinedFollows⟩ :=
    follows.readFrom fresh (1 + first.lines.length) read
  refine ⟨joined, joinedFollows, ?_⟩
  intro fault failed
  rw [read_eq_error, Reader.readFrom_joined ended finished, split, Reader.readFrom_append,
    joinedRead]
  have number : ((1 + first.lines.length + fed.length : Nat) : Int) =
      first.lines.length + (fed.length + 1) := by omega
  rw [← number]
  exact Reader.readFrom_cons_of_fault failed _ after

end Joining

/-- Reading composes over sections. Let a text end its last line, and another one start with the
heading of a knot. A fault of the first is the fault of both together. If both can be read, so can
they together, to the first script with the knots of the second after its own, unless they share a
name: then the first heading of the second text with a name of the first is a fault. And a fault of
the second is that of both together, with the lines of the first counted in, unless a heading before
it has a name of the first. -/
theorem reading_composes {first second : Text}
    (ended : first = [] ∨ first.getLast? = some '\n')
    (opens : ∃ line rest, second.lines = line :: rest ∧ "===".toList <+: line.trim ∧
      "===".toList <:+ line.trim) :
    (∀ error, Script.read first = .error error → Script.read (first ++ second) = .error error) ∧
    ∀ one, Script.read first = .ok one →
      (∀ other, Script.read second = .ok other →
        ((∀ name ∈ one.knotNames, name ∉ other.knotNames) →
          ∃ joined, Script.read (first ++ second) = .ok joined ∧
            joined.metadata = one.metadata ∧ joined.declarations = one.declarations ∧
            joined.knots = one.knots ++ other.knots) ∧
        ((∃ name ∈ one.knotNames, name ∈ other.knotNames) →
          ∃ before line after name, second.lines = before ++ line :: after ∧
            Reader.knotName? line.trim = some name ∧ name ∈ one.knotNames ∧
            Reader.Fresh one.knotNames before ∧
            Script.read (first ++ second) =
              .error
                { grammar := .script
                  fault := .duplicateKnot name
                  lineNumber := first.lines.length + (before.length + 1)
                  line })) ∧
      ∀ error, Script.read second = .error error →
        ∃ before line after, second.lines = before ++ line :: after ∧
          error.lineNumber = before.length + 1 ∧ error.line = line ∧
          (Reader.Fresh one.knotNames before →
            Script.read (first ++ second) =
              .error { error with lineNumber := first.lines.length + error.lineNumber }) := by
  have starts : ∃ line rest name, second.lines = line :: rest ∧
      Reader.knotName? line.trim = some name := by
    obtain ⟨line, rest, same, start, finish⟩ := opens
    exact ⟨line, rest, _, same, Reader.knotName?_eq_some.mpr ⟨start, finish, rfl⟩⟩
  refine ⟨fun error failed => Script.read_append_of_error ended failed, ?_⟩
  intro one parsed
  obtain ⟨before, finished, rfl⟩ := Script.read_eq_ok.mp parsed
  have names := before.knotNames_toScript
  refine ⟨?_, ?_⟩
  · intro other twinParsed
    have headings := Script.knotNames_of_read twinParsed
    obtain ⟨last, read, rfl⟩ := Script.read_eq_ok.mp twinParsed
    rw [names]
    refine ⟨?_, ?_⟩
    · intro disjoint
      rw [headings, ← Reader.fresh_iff] at disjoint
      obtain ⟨joined, joinedRead, follows⟩ :=
        Script.read_append_of_fresh ended finished starts disjoint read
      refine ⟨_, joinedRead, follows.metadata, ?_, ?_⟩
      · simp only [Reader.toScript, follows.declared]
      · simp only [Reader.toScript, follows.knots, List.map_append]
    · rintro ⟨shared, known, started⟩
      have stale : ¬Reader.Fresh (before.knots.map KnotDraft.name) second.lines := by
        rw [Reader.fresh_iff, ← headings]
        exact fun disjoint => disjoint shared known started
      obtain ⟨fed, line, after, name, split, fresh, heading, repeated⟩ :=
        Reader.exists_first_repeated stale
      refine ⟨fed, line, after, name, split, heading, repeated, fresh, ?_⟩
      -- The second text can be read alone, so no line of it up to this one is faulty there.
      rw [split] at read
      obtain ⟨middle, middleRead, clear⟩ := Reader.readFrom_middle read
      obtain ⟨joined, follows, fails⟩ :=
        Script.read_append_of_fault ended finished starts split fresh middleRead
      exact fails _ (follows.repeated heading clear repeated)
  · intro error failed
    rw [names]
    obtain ⟨fed, line, after, last, fault, split, read, found, rfl⟩ :=
      Reader.readFrom_eq_error (Script.read_eq_error.mp failed)
    have number : ((1 + fed.length : Nat) : Int) = fed.length + 1 := by omega
    refine ⟨fed, line, after, split, number, rfl, ?_⟩
    intro fresh
    obtain ⟨joined, follows, fails⟩ :=
      Script.read_append_of_fault ended finished starts split fresh read
    rw [fails fault (follows.fault found), ParseError.locate, ParseError.locate, number]

namespace Mill

def yard : Text := "// title: Mill\n// STATES: key\n=== yard ===\nStones.\n"

def loft : Text := "=== loft ===\n- Dust.\n* Down -> yard\n"

def ruin : Text := "=== loft ===\n* Down ->\n"

end Mill

theorem reading_composes_mill :
    (∃ one other joined, Script.read Mill.yard = .ok one ∧ Script.read Mill.loft = .ok other ∧
      Script.read (Mill.yard ++ Mill.loft) = .ok joined ∧ joined.metadata = one.metadata ∧
      joined.declarations = one.declarations ∧ joined.knots = one.knots ++ other.knots) ∧
    ∃ error, Script.read Mill.ruin = .error error ∧ error.lineNumber = 2 ∧
      Script.read (Mill.yard ++ Mill.ruin) = .error { error with lineNumber := 4 + 2 } := by
  have ended : Mill.yard = [] ∨ Mill.yard.getLast? = some '\n' := by decide
  have loftOpens : ∃ line rest, Mill.loft.lines = line :: rest ∧
      "===".toList <+: line.trim ∧ "===".toList <:+ line.trim :=
    ⟨_, _, rfl, by decide, by decide⟩
  have ruinOpens : ∃ line rest, Mill.ruin.lines = line :: rest ∧
      "===".toList <+: line.trim ∧ "===".toList <:+ line.trim :=
    ⟨_, _, rfl, by decide, by decide⟩
  have computed : ((Script.read Mill.yard).toOption.isSome, (Script.read Mill.loft).toOption.isSome,
      match Script.read Mill.ruin with
      | .ok _ => none
      | .error error => some error.lineNumber) = (true, true, some 2) := by
    decide +kernel
  simp only [Prod.mk.injEq, Option.isSome_iff_exists] at computed
  obtain ⟨⟨one, yardFound⟩, ⟨other, loftFound⟩, failed⟩ := computed
  have yardRead := Except.eq_ok_of_toOption yardFound
  have loftRead := Except.eq_ok_of_toOption loftFound
  have names := Script.knotNames_of_read yardRead
  have counted : Mill.yard.lines.length = 4 := by decide +kernel
  constructor
  · obtain ⟨disjoint, _⟩ := ((reading_composes ended loftOpens).2 one yardRead).1 other loftRead
    rw [names, Script.knotNames_of_read loftRead] at disjoint
    obtain ⟨joined, read, metadata, declarations, knots⟩ := disjoint (by decide +kernel)
    exact ⟨one, other, joined, yardRead, loftRead, read, metadata, declarations, knots⟩
  · cases ruinRead : Script.read Mill.ruin with
    | ok _ =>
        rw [ruinRead] at failed
        cases failed
    | error error =>
        rw [ruinRead] at failed
        obtain ⟨before, line, after, split, _, _, fails⟩ :=
          ((reading_composes ended ruinOpens).2 one yardRead).2 error ruinRead
        have fresh : Reader.Fresh one.knotNames Mill.ruin.lines := by
          rw [Reader.fresh_iff, names]
          decide +kernel
        have number : error.lineNumber = 2 := Option.some.inj failed
        refine ⟨error, rfl, number, ?_⟩
        rw [fails fun first member => fresh first (split ▸ List.mem_append_left _ member), counted,
          number]
        rfl

end Knotwork
