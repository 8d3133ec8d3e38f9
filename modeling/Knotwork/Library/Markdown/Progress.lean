import Knotwork.Library.Markdown.Html

/-!
How far the reading of a Markdown document has come, and what its rules see when they look at a line
without taking it. Each rule that is tried is noted, with the place in the document.
-/

namespace Knotwork.Markdown

inductive Rule where
  | table | code | fence | quotation | divider | list | reference | html | heading | underlined
  | paragraph
deriving DecidableEq

namespace Rule

def name : Rule → Text
  | table => "table"
  | code => "code"
  | fence => "fence"
  | quotation => "blockquote"
  | divider => "hr"
  | list => "list"
  | reference => "reference"
  | html => "html_block"
  | heading => "heading"
  | underlined => "lheading"
  | paragraph => "paragraph"

def all : List Rule :=
  [table, code, fence, quotation, divider, list, reference, html, heading, underlined, paragraph]

def endQuotation : List Rule := [fence, quotation, divider, list, html, heading]

def endParagraph : List Rule := table :: endQuotation

def endList : List Rule := [fence, quotation, divider]

end Rule

structure Attempt where
  rule : Rule
  line : Nat
  level : Nat
  pieces : Nat
  start : Nat
  last : Nat
  silent : Bool
deriving DecidableEq

/-- The state of reading: the lines, the line behind the last one that a paragraph may go on to, the
indentation of the block and of the list that are open, the present line, the depth of nesting, and the
number of pieces found. -/
structure Progress where
  lines : Array Line
  last : Nat
  indent : Int := 0
  listIndent : Option Int := none
  line : Nat := 0
  level : Nat := 0
  pieces : Nat := 0
  attempts : Array Attempt := #[]
deriving DecidableEq

namespace Progress

def ofText (source : Text) : Progress :=
  let lines := (linesOf source).toArray
  { lines, last := lines.size }

def lineAt (progress : Progress) (i : Nat) : Line := progress.lines.getD i { text := [] }

def isEmptyAt (progress : Progress) (i : Nat) : Bool := (progress.lineAt i).isEmpty

def isOutside (progress : Progress) (i : Nat) : Bool := (progress.lineAt i).indent < progress.indent

def isCode (progress : Progress) (i : Nat) : Bool :=
  4 ≤ (progress.lineAt i).indent - progress.indent

def skipEmpty (progress : Progress) : Nat → Nat → Nat
  | 0, i => i
  | bound + 1, i =>
      if i < progress.last && progress.isEmptyAt i then progress.skipEmpty bound (i + 1) else i

def add (progress : Progress) (count : Nat) : Progress :=
  { progress with pieces := progress.pieces + count }

def enter (progress : Progress) : Progress :=
  { progress with level := progress.level + 1, pieces := progress.pieces + 1 }

def leave (progress : Progress) : Progress :=
  { progress with level := progress.level - 1, pieces := progress.pieces + 1 }

def note (progress : Progress) (rule : Rule) (start last : Nat) (silent : Bool) : Progress :=
  if rule = .table then progress
  else
    { progress with
      attempts := progress.attempts.push
        { rule, line := progress.line, level := progress.level, pieces := progress.pieces,
          start, last, silent } }

def columns? (progress : Progress) (start last : Nat) : Option Nat :=
  let head := (progress.lineAt start).content.trim
  if last < start + 2 || progress.isOutside (start + 1) || progress.isCode (start + 1) ||
      progress.isCode start || !head.contains '|' then none
  else
    let count := (cellsOf head).length
    (divisions? (progress.lineAt (start + 1)).content).filter fun n => n = count && n ≠ 0

/-- The mark of the list that a line can start. A line below the items of a list may be too far in for
an item and too far out for the content of one. -/
def listMark? (progress : Progress) (start : Nat) : Option ItemMark :=
  let line := progress.lineAt start
  let isBetween := progress.listIndent.any fun outer => 4 ≤ line.indent - outer
  if progress.isCode start || (isBetween && progress.isOutside start) then none
  else itemMark? line.content

def canInterrupt (line : Line) (mark : ItemMark) : Bool :=
  mark.number.all (· = 1) && !(line.content.drop mark.length).all isSpace

def sees (progress : Progress) (inParagraph : Bool) (start last : Nat) (rule : Rule) : Bool :=
  let line := progress.lineAt start
  match rule with
  | .table => (progress.columns? start last).isSome
  | .fence => !progress.isCode start && (fence? line.content).isSome
  | .quotation => !progress.isCode start && line.content.head? = some '>'
  | .divider => !progress.isCode start && isRule line.content
  | .list => (progress.listMark? start).any fun mark =>
      !inParagraph || progress.isOutside start || canInterrupt line mark
  | .html => !progress.isCode start && (htmlBlock? line.content).any (· ≠ .tag)
  | .heading => !progress.isCode start && isHeading line.content
  | .code | .reference | .underlined | .paragraph => false

def look (progress : Progress) (inParagraph : Bool) (start last : Nat) :
    List Rule → Progress × Bool
  | [] => (progress, false)
  | rule :: rest =>
      let noted := progress.note rule start last true
      if progress.sees inParagraph start last rule then (noted, true)
      else look noted inParagraph start last rest

end Progress

end Knotwork.Markdown
