import Knotwork.Condition
import Knotwork.Script.Basic
import Knotwork.Text.Case
import Knotwork.Text.Lines

/-!
Reading a script line by line. Lines before the first knot are the header. In a knot a line is a
choice, the start of a block of text, a remark, the mark of an ending, or text that goes on with the
open block. A reader keeps what it has read also when a line is faulty.
-/

namespace Knotwork

def takeCondition (source : Text) : Except ParseError (Text × Text) :=
  match Text.cut? ['{'] source with
  | none => .ok ([], source)
  | some (before, rest) =>
      if before.contains '}' then .error { grammar := .script, fault := .unmatchedBraces }
      else match Text.cut? ['}'] rest with
        | none => .error { grammar := .script, fault := .unmatchedBraces }
        | some (condition, after) => do
            let _ ← Condition.read condition.trim
            return (condition.trim, before ++ after)

structure Arrow where
  target : Option Text := none
  stitch : Option Text := none
deriving DecidableEq

def takeArrow (source : Text) : Except ParseError (Text × Arrow) :=
  match Text.cut? ['-', '>'] source with
  | none => .ok (source, {})
  | some (before, after) =>
      match after.trim with
      | [] => .error { grammar := .script, fault := .noDestination }
      | '.' :: name => .ok (before, { stitch := some ('.' :: name) })
      | destination => .ok (before, { target := some destination })

def readChanges (sources : List Text) : Except ParseError (List Change) :=
  (sources.filter fun source => source.trim ≠ []).mapM Change.read

/-- Reads the line of a choice. Its parts are cut off from the right: the arrow, then the changes,
then the condition. What remains is the text. -/
def Choice.read (line : Text) : Except ParseError Choice := do
  let (rest, arrow) ← takeArrow (Text.dropMark ['*'] line.trim).trim
  let pieces := Text.splitOn ['~'] rest
  let changes ← readChanges pieces.tail
  let (condition, rest) ← takeCondition (pieces.headD [])
  let text := rest.trim
  if text.isEmpty && arrow.target.isNone && arrow.stitch.isNone && changes.isEmpty then
    throw { grammar := .script, fault := .emptyChoice }
  return { text, condition, changes, target := arrow.target, stitch := arrow.stitch }

structure BlockDraft where
  condition : Text := []
  lines : List Text := []
deriving DecidableEq

namespace BlockDraft

def read (line : Text) : Except ParseError BlockDraft := do
  let (condition, rest) ← takeCondition (Text.dropMark ['-'] line.trim).trim
  return { condition, lines := (Text.trim? rest).toList }

def push (block : BlockDraft) (line : Text) : BlockDraft :=
  { block with lines := block.lines ++ [line] }

def toBlock (block : BlockDraft) : Block :=
  { condition := block.condition, content := (Text.joinWith ['\n'] block.lines).trim }

end BlockDraft

structure KnotDraft where
  name : Text
  scene : Text := []
  closed : List BlockDraft := []
  opened : Option BlockDraft := none
  choices : List Choice := []
  isEnd : Bool := false
deriving DecidableEq

namespace KnotDraft

def blocks (knot : KnotDraft) : List BlockDraft := knot.closed ++ knot.opened.toList

def close (knot : KnotDraft) : KnotDraft := { knot with closed := knot.blocks, opened := none }

def start (knot : KnotDraft) (block : BlockDraft) : KnotDraft :=
  { knot with closed := knot.blocks, opened := some block }

def pushBlank (knot : KnotDraft) : KnotDraft :=
  { knot with opened := knot.opened.map (·.push []) }

def pushText (knot : KnotDraft) (line : Text) : KnotDraft :=
  match knot.opened with
  | some block => { knot with opened := some (block.push line) }
  | none => knot.start { lines := [line] }

def remark (knot : KnotDraft) (content : Text) : KnotDraft :=
  match Text.cut? [':'] content with
  | some (key, value) => if key.trim = "scene" then { knot with scene := value.trim } else knot
  | none => knot

/-- Reads one line of a knot, which is neither blank nor starts a knot. A faulty choice has still
closed the open block; a faulty block leaves the knot as it was. -/
def feed (knot : KnotDraft) (line : Text) : KnotDraft × Option ParseError :=
  match line with
  | '/' :: '/' :: content => (knot.close.remark content, none)
  | '*' :: _ =>
      match Choice.read line with
      | .ok choice => ({ knot.close with choices := knot.choices ++ [choice] }, none)
      | .error error => (knot.close, some error)
  | '-' :: _ =>
      match BlockDraft.read line with
      | .ok block => (knot.start block, none)
      | .error error => (knot, some error)
  | _ =>
      if line = "END" then ({ knot.close with isEnd := true }, none)
      else (knot.pushText line, none)

def toKnot (knot : KnotDraft) : Knot :=
  { name := knot.name, scene := knot.scene, body := knot.blocks.map BlockDraft.toBlock,
    choices := knot.choices, isEnd := knot.isEnd }

@[simp] theorem name_remark (knot : KnotDraft) (content : Text) :
    (knot.remark content).name = knot.name := by
  unfold remark
  repeat' split
  all_goals rfl

@[simp] theorem name_pushText (knot : KnotDraft) (line : Text) :
    (knot.pushText line).name = knot.name := by
  unfold pushText
  split <;> rfl

@[simp] theorem name_feed (knot : KnotDraft) (line : Text) :
    (knot.feed line).1.name = knot.name := by
  unfold feed
  repeat' split
  all_goals simp [close, start]

end KnotDraft

structure Reader where
  metadata : Table Text := Table.empty
  declared : Declarations := {}
  earlier : List KnotDraft := []
  current : Option KnotDraft := none
  distinct : ((earlier ++ current.toList).map KnotDraft.name).Nodup := by simp
deriving DecidableEq

namespace Reader

def knots (reader : Reader) : List KnotDraft := reader.earlier ++ reader.current.toList

def namesIn (list : Text) : List Text := (Text.splitOn [','] list).filterMap Text.trim?

def checkNames : List Text → List Text × Option ParseError
  | [] => ([], none)
  | name :: rest =>
      match checkName .script [] name with
      | .ok name =>
          let (names, error) := checkNames rest
          (name :: names, error)
      | .error error => ([], some error)

def disciplineOfKey? (key : Text) : Option Discipline :=
  match Text.capitals? key with
  | some word =>
      if word = "STATES" then some .global
      else if word = "FLAG-STATES" then some .flag
      else if word = "LOCAL-STATES" then some .sceneLocal
      else none
  | none => none

def declare (declared : Declarations) (discipline : Discipline) (names : List Text) :
    Declarations :=
  match discipline with
  | .global => { declared with globals := declared.globals ++ names }
  | .flag => { declared with flags := declared.flags ++ names }
  | .sceneLocal => { declared with locals := declared.locals ++ names }

/-- Reads a header line: declarations, metadata, or a remark if there is no colon. The names before
a faulty one are declared. -/
def header (reader : Reader) (content : Text) : Reader × Option ParseError :=
  match Text.cut? [':'] content with
  | none => (reader, none)
  | some (key, value) =>
      match disciplineOfKey? key.trim with
      | some discipline =>
          let (names, error) := checkNames (namesIn value.trim)
          ({ reader with declared := declare reader.declared discipline names }, error)
      | none => ({ reader with metadata := reader.metadata.insert key.trim value.trim }, none)

def knotName? (line : Text) : Option Text :=
  if "===".toList.isPrefixOf line && "===".toList.isSuffixOf line then
    some (Text.trim ((line.drop 3).take (line.length - 6)))
  else none

def startKnot (reader : Reader) (name : Text) : Reader × Option ParseError :=
  if name = [] then (reader, some { grammar := .script, fault := .emptyKnotName })
  else if name.contains '|' then
    (reader, some { grammar := .script, fault := .reservedInKnotName })
  else if known : name ∈ reader.knots.map KnotDraft.name then
    (reader, some { grammar := .script, fault := .duplicateKnot name })
  else
    ({ reader with
        earlier := reader.knots
        current := some { name }
        distinct := by
          have old := reader.distinct
          simp only [knots] at known ⊢
          simp only [List.map_append, Option.toList_some, List.map_cons, List.map_nil]
          rw [← List.map_append]
          refine List.nodup_append.mpr ⟨old, by simp, ?_⟩
          intro first member second single same
          simp only [List.mem_singleton] at single
          exact known (single ▸ same ▸ member) }, none)

def amend (reader : Reader) (knot changed : KnotDraft) (present : reader.current = some knot)
    (sameName : changed.name = knot.name) : Reader :=
  { reader with
    current := some changed
    distinct := by
      have old := reader.distinct
      rw [present] at old
      simpa [sameName] using old }

def feed (reader : Reader) (line : Text) : Reader × Option ParseError :=
  let line := line.trim
  match present : reader.current with
  | none =>
      match line with
      | '/' :: '/' :: content => reader.header content
      | _ =>
          match knotName? line with
          | some name => reader.startKnot name
          | none => (reader, none)
  | some knot =>
      if line = [] then (reader.amend knot knot.pushBlank present rfl, none)
      else match knotName? line with
        | some name => reader.startKnot name
        | none =>
            let result := knot.feed line
            (reader.amend knot result.1 present (KnotDraft.name_feed knot line), result.2)

def toScript (reader : Reader) : Script :=
  { metadata := reader.metadata
    declarations :=
      { globals := firstOfEach reader.declared.globals
        flags := firstOfEach reader.declared.flags
        locals := firstOfEach reader.declared.locals }
    knots := reader.knots.map KnotDraft.toKnot
    distinct := by simpa [knots, Function.comp_def, KnotDraft.toKnot] using reader.distinct }

def readFrom (reader : Reader) (number : Nat) : List Text → Except ParseError Reader
  | [] => .ok reader
  | line :: rest =>
      match reader.feed line with
      | (next, none) => readFrom next (number + 1) rest
      | (_, some error) => .error (error.locate number line)

end Reader

def Script.read (source : Text) : Except ParseError Script := do
  return (← Reader.readFrom {} 1 source.lines).toScript

end Knotwork
