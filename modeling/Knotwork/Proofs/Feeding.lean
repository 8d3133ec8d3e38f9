import Knotwork.Proofs.Reading
import Knotwork.Proofs.Table
import Knotwork.Script.Outline

/-! What one line does to a reader, and what holds after any number of them. Main statement: whatever
lines are fed, faulty ones included, the reader holds sound parts in their places, and the script made
of it passes every check that a script put together by hand has to pass. -/

namespace Knotwork

def KnotDraft.next (knot : KnotDraft) (line : Text) : KnotDraft × Option ParseError :=
  if line.trim = [] then (knot.pushBlank, none) else knot.feed line.trim

theorem KnotDraft.name_next (knot : KnotDraft) (line : Text) :
    (knot.next line).1.name = knot.name := by
  unfold next
  split
  · rfl
  · exact knot.name_feed line.trim

namespace Reader

theorem knots_of_current {reader : Reader} {knot : KnotDraft}
    (present : reader.current = some knot) : reader.knots = reader.earlier ++ [knot] := by
  rw [knots, present]
  rfl

theorem knotName?_eq_some {line name : Text} :
    knotName? line = some name ↔
      "===".toList <+: line ∧ "===".toList <:+ line ∧
        name = Text.trim ((line.drop 3).take (line.length - 6)) := by
  unfold knotName?
  split
  · rename_i marked
    rw [Bool.and_eq_true, List.isPrefixOf_iff_prefix, List.isSuffixOf_iff_suffix] at marked
    rw [Option.some.injEq, eq_comm]
    exact ⟨fun same => ⟨marked.1, marked.2, same⟩, fun found => found.2.2⟩
  · rename_i unmarked
    rw [Bool.and_eq_true, List.isPrefixOf_iff_prefix, List.isSuffixOf_iff_suffix] at unmarked
    constructor
    · intro found
      cases found
    · rintro ⟨start, finish, _⟩
      exact absurd ⟨start, finish⟩ unmarked

theorem feed_heading (reader : Reader) {line name : Text}
    (heading : knotName? line.trim = some name) : reader.feed line = reader.startKnot name := by
  obtain ⟨⟨rest, starts⟩, _⟩ := knotName?_eq_some.mp heading
  unfold feed
  dsimp only
  generalize line.trim = trimmed at heading starts
  subst starts
  split
  · split
    · rename_i same
      cases same
    · rw [heading]
  · rw [if_neg (by simp), heading]

theorem feed_within {reader : Reader} {knot : KnotDraft} (present : reader.current = some knot)
    {line : Text} (plain : knotName? line.trim = none) :
    (reader.feed line).2 = (knot.next line).2 ∧
      (reader.feed line).1.metadata = reader.metadata ∧
      (reader.feed line).1.declared = reader.declared ∧
      (reader.feed line).1.earlier = reader.earlier ∧
      (reader.feed line).1.current = some (knot.next line).1 := by
  unfold feed KnotDraft.next
  dsimp only
  split
  · rename_i absent
    rw [present] at absent
    cases absent
  · rename_i other found
    rw [present] at found
    cases found
    split
    · exact ⟨rfl, rfl, rfl, rfl, rfl⟩
    · rw [plain]
      exact ⟨rfl, rfl, rfl, rfl, rfl⟩

theorem header_knots (reader : Reader) (content : Text) :
    (reader.header content).1.earlier = reader.earlier ∧
      (reader.header content).1.current = reader.current := by
  unfold header
  split
  · exact ⟨rfl, rfl⟩
  · split
    · exact ⟨rfl, rfl⟩
    · exact ⟨rfl, rfl⟩

theorem feed_before {reader : Reader} (absent : reader.current = none) {line : Text}
    (plain : knotName? line.trim = none) :
    (reader.feed line).1.earlier = reader.earlier ∧ (reader.feed line).1.current = none := by
  unfold feed
  dsimp only
  split
  · split
    · rename_i content _
      obtain ⟨earlier, current⟩ := reader.header_knots content
      exact ⟨earlier, current.trans absent⟩
    · rw [plain]
      exact ⟨rfl, absent⟩
  · rename_i present
    rw [absent] at present
    cases present

theorem startKnot_fault (reader : Reader) (name : Text) :
    (reader.startKnot name).2 =
      if name = [] then some { grammar := .script, fault := .emptyKnotName }
      else if name.contains '|' then some { grammar := .script, fault := .reservedInKnotName }
      else if name ∈ reader.knots.map KnotDraft.name then
        some { grammar := .script, fault := .duplicateKnot name }
      else none := by
  unfold startKnot
  split
  · rfl
  · split
    · rfl
    · split
      · rfl
      · rfl

theorem startKnot_of_clear {reader : Reader} {name : Text}
    (clear : (reader.startKnot name).2 = none) :
    (reader.startKnot name).1.metadata = reader.metadata ∧
      (reader.startKnot name).1.declared = reader.declared ∧
      (reader.startKnot name).1.earlier = reader.knots ∧
      (reader.startKnot name).1.current = some { name } := by
  unfold startKnot at clear ⊢
  split at clear
  · cases clear
  · split at clear
    · cases clear
    · split at clear
      · cases clear
      · rename_i nonempty unbarred new
        rw [if_neg nonempty, if_neg unbarred, dif_neg new]
        exact ⟨rfl, rfl, rfl, rfl⟩

theorem startKnot_of_fault {reader : Reader} {name : Text} {fault : ParseError}
    (failed : (reader.startKnot name).2 = some fault) : (reader.startKnot name).1 = reader := by
  unfold startKnot at failed ⊢
  split
  · rfl
  · split
    · rfl
    · split
      · rfl
      · rename_i nonempty unbarred new
        rw [if_neg nonempty, if_neg unbarred, dif_neg new] at failed
        cases failed

def Placed (reader : Reader) : Prop := reader.current = none → reader.earlier = []

theorem Placed.startKnot {reader : Reader} (placed : reader.Placed) (name : Text) :
    (reader.startKnot name).1.Placed := by
  cases failing : (reader.startKnot name).2 with
  | none =>
      intro absent
      rw [(startKnot_of_clear failing).2.2.2] at absent
      cases absent
  | some fault =>
      rw [startKnot_of_fault failing]
      exact placed

theorem Placed.feed {reader : Reader} (placed : reader.Placed) (line : Text) :
    (reader.feed line).1.Placed := by
  cases heading : knotName? line.trim with
  | some name =>
      rw [feed_heading reader heading]
      exact placed.startKnot name
  | none =>
      cases present : reader.current with
      | none =>
          intro _
          rw [(feed_before present heading).1]
          exact placed present
      | some knot =>
          intro absent
          rw [(feed_within present heading).2.2.2.2] at absent
          cases absent

def feedAll (reader : Reader) (lines : List Text) : Reader :=
  lines.foldl (fun reader line => (reader.feed line).1) reader

theorem feedAll_keeps {holds : Reader → Prop}
    (keeps : ∀ reader line, holds reader → holds (reader.feed line).1) {reader : Reader}
    (initially : holds reader) (lines : List Text) : holds (reader.feedAll lines) := by
  induction lines generalizing reader with
  | nil => exact initially
  | cons line rest ih => exact ih (keeps reader line initially)

theorem Placed.getLast? {reader : Reader} (placed : reader.Placed) :
    reader.knots.getLast? = reader.current := by
  unfold knots
  cases present : reader.current with
  | none => simp [placed present]
  | some knot => simp

theorem Placed.current_eq_none {reader : Reader} (placed : reader.Placed) :
    reader.current = none ↔ reader.knots = [] := by
  rw [← placed.getLast?, List.getLast?_eq_none_iff]

end Reader

theorem KnotDraft.getLast?_blocks {knot : KnotDraft} {block : BlockDraft}
    (opened : knot.opened = some block) : knot.blocks.getLast? = some block := by
  simp [blocks, opened]

def KnotDraft.outline (knot : KnotDraft) : KnotOutline where
  name := some knot.name
  scene := knot.scene
  body := knot.blocks.map BlockDraft.toBlock
  choices := knot.choices
  isEnd := knot.isEnd

def Reader.outline (reader : Reader) : ScriptOutline where
  metadata := reader.metadata
  declarations := reader.toScript.declarations
  knots :=
    { entries := reader.knots.map fun knot => (knot.name, knot.outline)
      distinct := by simpa [Reader.knots, Function.comp_def] using reader.distinct }

theorem Script.eq_of_parts {first second : Script} (metadata : first.metadata = second.metadata)
    (declarations : first.declarations = second.declarations) (knots : first.knots = second.knots) :
    first = second := by
  cases first
  cases second
  simp only [Script.mk.injEq]
  exact ⟨metadata, declarations, knots⟩

theorem issuesWithin_eq_nil {α : Type} (field : Text) {issues : α → List Issue} {items : List α}
    (clean : ∀ item ∈ items, issues item = []) : issuesWithin field issues items = [] := by
  rw [issuesWithin, List.flatMap_eq_nil_iff]
  rintro ⟨item, index⟩ member
  simp [clean item (List.fst_mem_of_mem_zipIdx member)]

theorem Choice.Sound.issues_eq_nil {choice : Choice} (sound : choice.Sound) : choice.issues = [] := by
  have changes : issuesWithin "mutations" Change.issues choice.changes = [] := by
    apply issuesWithin_eq_nil
    intro change member
    rw [Change.issues, if_neg (sound.changes change member).nonempty]
  have single : choice.target.getD [] = [] ∨ choice.stitch.getD [] = [] := by
    rcases sound.leads.single with untargeted | unstitched
    · exact Or.inl (congrArg (Option.getD · []) untargeted)
    · exact Or.inr (congrArg (Option.getD · []) unstitched)
  rw [Choice.issues, changes]
  rcases single with untargeted | unstitched
  · simp [untargeted]
  · simp [unstitched]

theorem KnotDraft.Sound.issues_eq_nil {knot : KnotDraft} (sound : knot.Sound) :
    knot.outline.issues = [] := by
  have named : knot.outline.nameIssues = [] := by
    obtain ⟨first, rest, same⟩ := List.exists_cons_of_ne_nil sound.name.nonempty
    simp [KnotOutline.nameIssues, KnotDraft.outline, same]
  rw [KnotOutline.issues, named, List.nil_append]
  apply issuesWithin_eq_nil
  intro choice member
  exact (sound.choices choice member).issues_eq_nil

theorem Reader.Sound.check_outline {reader : Reader} (sound : reader.Sound) :
    reader.outline.check = .ok reader.toScript := by
  have clean : reader.outline.knotIssues = [] := by
    rw [ScriptOutline.knotIssues, List.flatMap_eq_nil_iff]
    rintro ⟨key, outline⟩ member
    obtain ⟨knot, present, same⟩ := List.mem_map.mp member
    cases same
    simp [(sound.knots knot present).issues_eq_nil]
  have placed : reader.outline.misplaced? = none := by
    rw [ScriptOutline.misplaced?, List.find?_eq_none]
    rintro ⟨key, outline⟩ member
    obtain ⟨knot, _, same⟩ := List.mem_map.mp member
    cases same
    simp [KnotDraft.outline, KnotOutline.toKnot]
  unfold ScriptOutline.check
  split
  · split
    · rename_i found
      rw [placed] at found
      cases found
    · have knots : reader.outline.knots.values.map KnotOutline.toKnot = reader.toScript.knots := by
        simp only [Reader.outline, Table.values, List.map_map, Reader.toScript]
        rfl
      exact congrArg Except.ok (Script.eq_of_parts rfl rfl knots)
  · rename_i issues
    exact absurd clean issues

/-- A reader whose parts are sound and in their places: every knot is keyed by its own name, which no
other knot has, the present knot is the last one and is there as soon as there are knots, and the open
block is its last one. -/
structure Reader.WellFormed (reader : Reader) : Prop where
  sound : reader.Sound
  distinct : (reader.knots.map KnotDraft.name).Nodup
  keyed : ∀ key outline, reader.outline.knots.find? key = some outline → outline.name = some key
  entered : ∀ knot ∈ reader.knots, reader.outline.knots.find? knot.name = some knot.outline
  last : ∀ knot, reader.current = some knot → reader.knots.getLast? = some knot
  begun : reader.current = none ↔ reader.knots = []
  opened : ∀ knot block, reader.current = some knot → knot.opened = some block →
    knot.blocks.getLast? = some block

theorem Reader.wellFormed_feedAll (lines : List Text) : (feedAll {} lines).WellFormed := by
  have sound : (feedAll {} lines).Sound :=
    feedAll_keeps (fun _ line sound => sound.feed line) sound_empty lines
  have placed : (feedAll {} lines).Placed :=
    feedAll_keeps (fun _ line placed => placed.feed line) (fun _ => rfl) lines
  refine ⟨sound, Reader.distinct _, ?_, ?_, ?_, placed.current_eq_none, ?_⟩
  · intro key outline found
    obtain ⟨knot, _, same⟩ := List.mem_map.mp ((Table.mem_entries_iff _ _ _).mpr found)
    cases same
    rfl
  · intro knot member
    exact (Table.mem_entries_iff _ _ _).mp (List.mem_map_of_mem member)
  · intro knot present
    exact placed.getLast?.trans present
  · intro knot block _ opened
    exact KnotDraft.getLast?_blocks opened

structure Script.Tidy (script : Script) : Prop where
  globals : script.declarations.globals.Nodup
  flags : script.declarations.flags.Nodup
  locals : script.declarations.locals.Nodup
  contents : ∀ knot ∈ script.knots, ∀ block ∈ knot.body, block.content.trim = block.content

theorem Reader.tidy_toScript (reader : Reader) : reader.toScript.Tidy := by
  refine ⟨nodup_firstOfEach _, nodup_firstOfEach _, nodup_firstOfEach _, ?_⟩
  intro knot member block blockMember
  obtain ⟨draft, _, rfl⟩ := List.mem_map.mp member
  obtain ⟨written, _, rfl⟩ := List.mem_map.mp blockMember
  exact Text.trim_trim _

/-- Whatever lines a reader has been fed, and however many of them were faulty, it is well-formed. So
no check ever objects to the script that it makes, which is tidy. -/
theorem feeding_keeps_reader_well_formed (lines : List Text) :
    (Reader.feedAll {} lines).WellFormed ∧
      (Reader.feedAll {} lines).outline.check = .ok (Reader.feedAll {} lines).toScript ∧
      (Reader.feedAll {} lines).toScript.Tidy := by
  have wellFormed := Reader.wellFormed_feedAll lines
  exact ⟨wellFormed, wellFormed.sound.check_outline, Reader.tidy_toScript _⟩

example :
    ((Reader.feedAll {} ["// STATES: key, a|b, door", "=== hall ===", "Dark.", "* Go ->"]).declared,
      (Reader.feedAll {} ["// STATES: key, a|b, door", "=== hall ===", "Dark.", "* Go ->"]).current) =
    (({ globals := ["key"] } : Declarations),
      some ({ name := "hall", closed := [{ lines := ["Dark."] }] } : KnotDraft)) := by
  decide +kernel

end Knotwork
