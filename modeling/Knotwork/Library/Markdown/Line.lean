import Knotwork.Text.Blank
import Knotwork.Text.Cut
import Knotwork.Text.Lines

/-!
Lines of a Markdown document, and what their first characters say. Where a line starts can move: a
quotation or a list takes the part with its mark off the lines in it.
-/

namespace Knotwork.Markdown

def isSpace (c : Char) : Bool := c = ' ' || c = '\t'

/-- A line: its text, where it starts, how many blanks it starts with, how many columns they take, and
at which column it starts. A line that only continues a paragraph has a negative indentation. -/
structure Line where
  text : Text
  start : Nat := 0
  shift : Nat := 0
  indent : Int := 0
  column : Int := 0
deriving DecidableEq

/-- The column behind some blanks. A tab goes to the next multiple of four, counted from a column
before the line. -/
def columnAfter (before : Int) : Int → Text → Int
  | column, [] => column
  | column, c :: rest =>
      let width := if c = '\t' then 4 - (column + before) % 4 else 1
      columnAfter before (column + width) rest

namespace Line

def ofText (t : Text) : Line :=
  let blanks := t.takeWhile isSpace
  { text := t, shift := blanks.length, indent := columnAfter 0 0 blanks }

def position (line : Line) : Nat := line.start + line.shift

def content (line : Line) : Text := line.text.drop line.position

def isEmpty (line : Line) : Bool := line.content.isEmpty

end Line

def linesOf (source : Text) : List Line :=
  let known := source.plainNewlines.map fun c => if c = '\x00' then '\ufffd' else c
  let pieces := Text.splitOn ['\n'] known
  -- A last line of nothing but blanks does not count.
  let kept := if (pieces.getLast?.getD []).all isSpace then pieces.dropLast else pieces
  kept.map Line.ofText

def runLength (c : Char) (t : Text) : Nat := (t.takeWhile (· = c)).length

def fence? (t : Text) : Option (Char × Nat) :=
  match t with
  | [] => none
  | c :: _ =>
      let length := runLength c t
      if !(c = '~' || c = '\x60') || length < 3 then none
      else if c = '\x60' && (t.drop length).contains '\x60' then none
      else some (c, length)

def closesFence (mark : Char) (length : Nat) (t : Text) : Bool :=
  length ≤ runLength mark t && (t.drop (runLength mark t)).all isSpace

def isRule (t : Text) : Bool :=
  match t with
  | [] => false
  | c :: rest =>
      (c = '*' || c = '-' || c = '_') && rest.all (fun d => d = c || isSpace d) && 3 ≤ t.count c

def isHeading (t : Text) : Bool :=
  let level := runLength '#' t
  1 ≤ level && level ≤ 6 && match t.drop level with
    | [] => true
    | c :: _ => isSpace c

def isUnderline (t : Text) : Bool :=
  match t with
  | [] => false
  | c :: _ => (c = '-' || c = '=') && (t.drop (runLength c t)).all isSpace

structure ItemMark where
  length : Nat
  kind : Char
  number : Option Nat := none
deriving DecidableEq

def numberMark? (t : Text) : Option ItemMark :=
  let digits := t.takeWhile Char.isDigit
  match t.drop digits.length with
  | [] => none
  | c :: rest =>
      if digits = [] || 9 < digits.length || !(c = '.' || c = ')') then none
      else if rest.head?.all isSpace then
        some { length := digits.length + 1, kind := c
               number := some (digits.foldl (fun n c => n * 10 + (c.toNat - 48)) 0) }
      else none

def bulletMark? (t : Text) : Option ItemMark :=
  match t with
  | [] => none
  | c :: rest =>
      if (c = '*' || c = '-' || c = '+') && rest.head?.all isSpace then some { length := 1, kind := c }
      else none

def itemMark? (t : Text) : Option ItemMark := (numberMark? t).or (bulletMark? t)

/-- A line without the mark of a quotation and the blank behind it, if it has that mark. A tab behind
the mark may be wider than the blank that is taken off. -/
def unquoted? (line : Line) : Option Line :=
  match line.content with
  | '>' :: rest =>
      let behind := line.indent + 1
      let isTab := rest.head? = some '\t'
      let keepsTab := isTab && (line.column + behind) % 4 ≠ 3
      let hasBlank := isTab || rest.head? = some ' '
      let taken : Nat := if hasBlank && !keepsTab then 1 else 0
      let first := behind + taken
      let blanks := (rest.drop taken).takeWhile isSpace
      let before := line.column + if keepsTab then 1 else 0
      some { text := line.text
             start := line.position + 1 + taken
             shift := blanks.length
             indent := columnAfter before first blanks - first
             column := line.indent + 1 + if hasBlank then 1 else 0 }
  | _ => none

/-- The first line of a list item: the line without the mark, and the indentation of the item. More
than four columns behind the mark belong to the content. -/
def itemLine (line : Line) (mark : ItemMark) : Line × Int :=
  let first := line.indent + mark.length
  let rest := line.content.drop mark.length
  let blanks := rest.takeWhile isSpace
  let last := columnAfter line.column first blanks
  let gap := if blanks.length = rest.length || 4 < last - first then 1 else last - first
  ({ line with shift := line.shift + mark.length + blanks.length, indent := last }, first + gap)

def cellsFrom (escaped : Bool) (cell : Text) : Text → List Text
  | [] => [cell.reverse]
  | c :: rest =>
      if c = '|' && !escaped then cell.reverse :: cellsFrom false [] rest
      else cellsFrom (c = '\\') (c :: cell) rest

def cellsOf (t : Text) : List Text :=
  let cells := cellsFrom false [] t.trim
  let cells := if cells.head? = some [] then cells.tail else cells
  if cells.getLast? = some [] then cells.dropLast else cells

def isDivision (t : Text) : Bool :=
  let dashes := Text.dropMark [':'] t
  let length := runLength '-' dashes
  1 ≤ length && (dashes.drop length = [] || dashes.drop length = [':'])

def divisions? (t : Text) : Option Nat :=
  let isMark (c : Char) : Bool := c = '|' || c = '-' || c = ':'
  match t with
  | first :: second :: rest =>
      if !isMark first || !(isMark second || isSpace second) || (first = '-' && isSpace second) ||
          !(rest.all fun c => isMark c || isSpace c) then none
      else
        let cells := (Text.splitOn ['|'] t).map Text.trim
        let inner := if cells.head? = some [] then cells.tail else cells
        let inner := if inner.getLast? = some [] then inner.dropLast else inner
        if inner.all isDivision then some inner.length else none
  | _ => none

end Knotwork.Markdown
