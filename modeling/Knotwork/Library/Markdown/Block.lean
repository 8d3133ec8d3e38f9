import Knotwork.Library.Markdown.Reference

/-!
Reading the blocks of a Markdown document. At each line the rules are tried in turn, and the first that
finds its kind of block takes the lines of it. Quotations and lists have blocks in them, up to a depth
of twenty.
-/

namespace Knotwork.Markdown

def mostNesting : Nat := 20

namespace Progress

def codeEnd (progress : Progress) (last : Nat) : Nat → Nat → Nat → Nat
  | 0, _, found => found
  | bound + 1, i, found =>
      if last ≤ i then found
      else if progress.isEmptyAt i then progress.codeEnd last bound (i + 1) found
      else if progress.isCode i then progress.codeEnd last bound (i + 1) (i + 1)
      else found

def fenceEnd (progress : Progress) (last : Nat) (mark : Char) (length : Nat) : Nat → Nat → Nat
  | 0, i => i
  | bound + 1, i =>
      if last ≤ i || (!progress.isEmptyAt i && progress.isOutside i) then i
      else if !progress.isCode i && closesFence mark length (progress.lineAt i).content then i + 1
      else progress.fenceEnd last mark length bound (i + 1)

def htmlEnd (progress : Progress) (last : Nat) (block : HtmlBlock) : Nat → Nat → Nat
  | 0, i => i
  | bound + 1, i =>
      let content := (progress.lineAt i).content
      if last ≤ i || progress.isOutside i then i
      else if block.endsWith content then if content = [] then i else i + 1
      else progress.htmlEnd last block bound (i + 1)

def paragraphEnd (underlines : Bool) (last : Nat) : Nat → Progress → Nat → Progress × Nat × Bool
  | 0, progress, i => (progress, i, false)
  | bound + 1, progress, i =>
      let line := progress.lineAt i
      if last ≤ i || line.isEmpty then (progress, i, false)
      else if progress.isCode i then paragraphEnd underlines last bound progress (i + 1)
      else if underlines && !progress.isOutside i && isUnderline line.content then (progress, i, true)
      else if line.indent < 0 then paragraphEnd underlines last bound progress (i + 1)
      else
        match progress.look true i last Rule.endParagraph with
        | (looked, true) => (looked, i, false)
        | (looked, false) => paragraphEnd underlines last bound looked (i + 1)

def tableBody (columns first last : Nat) : Nat → Progress → Nat → Progress × Nat
  | 0, progress, i => (progress, i)
  | bound + 1, progress, i =>
      if last ≤ i || progress.isOutside i then (progress, i)
      else
        match progress.look false i last Rule.endQuotation with
        | (looked, true) => (looked, i)
        | (looked, false) =>
            if (progress.lineAt i).content.trim = [] || progress.isCode i then (looked, i)
            else
              let opened := if i = first then looked.enter else looked
              tableBody columns first last bound (opened.add (2 + 3 * columns)) (i + 1)

def takeTable (progress : Progress) (start last columns : Nat) : Progress :=
  let head := progress.enter.add (4 + 3 * columns)
  let (body, next) := tableBody columns (start + 2) last (last - start) head (start + 2)
  let closed := if start + 2 < next then body.leave else body
  { closed.leave with line := next }

/-- The lines of a quotation from a line on, without their marks, and the line behind them. Lines
without the mark may go on with a paragraph; they are marked by a negative indentation. -/
def quotedLines (last : Nat) : Nat → Progress → Nat → Bool → Progress × Nat
  | 0, progress, i, _ => (progress, i)
  | bound + 1, progress, i, afterEmpty =>
      let line := progress.lineAt i
      if last ≤ i || line.isEmpty then (progress, i)
      else
        match (unquoted? line).filter fun _ => !progress.isOutside i with
        | some inner =>
            quotedLines last bound { progress with lines := progress.lines.setIfInBounds i inner }
              (i + 1) inner.isEmpty
        | none =>
            if afterEmpty then (progress, i)
            else
              match progress.look false i last Rule.endQuotation with
              | (looked, true) =>
                  let moved := { line with indent := line.indent - progress.indent }
                  ({ looked with last := i, lines := looked.lines.setIfInBounds i moved }, i)
              | (looked, false) =>
                  let lazy := { line with indent := -1 }
                  quotedLines last bound
                    { looked with lines := looked.lines.setIfInBounds i lazy } (i + 1) false

def takeQuotation (inner : Progress → Nat → Nat → Progress) (progress : Progress)
    (start last : Nat) : Progress :=
  match unquoted? (progress.lineAt start) with
  | none => progress
  | some first =>
      let begun := { progress with lines := progress.lines.setIfInBounds start first }
      let (quoted, next) := quotedLines last (last - start) begun (start + 1) first.isEmpty
      let read := inner { quoted.enter with indent := 0 } start next
      { read.leave with lines := progress.lines, last := progress.last, indent := progress.indent }

def takeItems (inner : Progress → Nat → Nat → Progress) (last : Nat) :
    Nat → Progress → Nat → ItemMark → Progress
  | 0, progress, _, _ => progress
  | bound + 1, progress, i, mark =>
      let (first, indent) := itemLine (progress.lineAt i) mark
      let opened :=
        { progress.enter with
          lines := progress.lines.setIfInBounds i first
          listIndent := some progress.indent
          indent := indent }
      let read :=
        if first.isEmpty && progress.isEmptyAt (i + 1) then
          { opened with line := min (opened.line + 2) last }
        else inner opened i last
      let closed :=
        { read.leave with
          lines := progress.lines, listIndent := progress.listIndent, indent := progress.indent }
      let next := closed.line
      if last ≤ next || closed.isOutside next || closed.isCode next then closed
      else
        match closed.look false next last Rule.endList with
        | (looked, true) => looked
        | (looked, false) =>
            match (itemMark? (looked.lineAt next).content).filter (·.kind = mark.kind) with
            | some further => takeItems inner last bound looked next further
            | none => looked

def take (inner : Progress → Nat → Nat → Progress) (progress : Progress) (start last : Nat)
    (rule : Rule) : Progress × Bool :=
  let noted := progress.note rule start last false
  let content := (progress.lineAt start).content
  let steps := progress.lines.size - start
  let isCode := progress.isCode start
  match rule with
  | .table =>
      match progress.columns? start last with
      | some columns => (noted.takeTable start last columns, true)
      | none => (noted, false)
  | .code =>
      if isCode then
        ({ noted.add 1 with line := noted.codeEnd last steps (start + 1) (start + 1) }, true)
      else (noted, false)
  | .fence =>
      match (fence? content).filter fun _ => !isCode with
      | some (mark, length) =>
          ({ noted.add 1 with line := noted.fenceEnd last mark length steps (start + 1) }, true)
      | none => (noted, false)
  | .quotation =>
      if !isCode && content.head? = some '>' then (takeQuotation inner noted start last, true)
      else (noted, false)
  | .divider =>
      if !isCode && isRule content then ({ noted.add 1 with line := start + 1 }, true)
      else (noted, false)
  | .list =>
      match noted.listMark? start with
      | some mark => ((takeItems inner last steps noted.enter start mark).leave, true)
      | none => (noted, false)
  | .reference => reference noted start
  | .html =>
      match (htmlBlock? content).filter fun _ => !isCode with
      | some block =>
          let next :=
            if block.endsWith content then start + 1
            else noted.htmlEnd last block steps (start + 1)
          ({ noted.add 1 with line := next }, true)
      | none => (noted, false)
  | .heading =>
      if !isCode && isHeading content then ({ noted.add 3 with line := start + 1 }, true)
      else (noted, false)
  | .underlined =>
      if isCode then (noted, false)
      else
        match paragraphEnd true last steps noted (start + 1) with
        | (looked, next, true) => ({ looked.add 3 with line := next + 1 }, true)
        | (looked, _, false) => (looked, false)
  | .paragraph =>
      let (looked, next, _) := paragraphEnd false noted.last steps noted (start + 1)
      ({ looked.add 3 with line := next }, true)

def takeFirst (inner : Progress → Nat → Nat → Progress) (progress : Progress) (start last : Nat) :
    List Rule → Progress
  | [] => progress
  | rule :: rest =>
      match progress.take inner start last rule with
      | (taken, true) => taken
      | (tried, false) => takeFirst inner tried start last rest

def blocksWith (inner : Progress → Nat → Nat → Progress) :
    Nat → Progress → Nat → Nat → Progress
  | 0, progress, _, _ => progress
  | bound + 1, progress, start, last =>
      if last ≤ start then progress
      else
        let first := progress.skipEmpty (progress.last - start) start
        let placed := { progress with line := first }
        if last ≤ first || placed.isOutside first then placed
        else if mostNesting ≤ placed.level then { placed with line := last }
        else
          let taken := takeFirst inner placed first last Rule.all
          let next :=
            if taken.line < last && taken.isEmptyAt taken.line then taken.line + 1 else taken.line
          blocksWith inner bound { taken with line := next } next last

def blocks : Nat → Progress → Nat → Nat → Progress
  | 0, progress, _, last => { progress with line := last }
  | depth + 1, progress, start, last => blocksWith (blocks depth) (last - start) progress start last

end Progress

def attempts (source : Text) : List Attempt :=
  let progress := Progress.ofText source
  (progress.blocks (mostNesting + 1) 0 progress.last).attempts.toList

end Knotwork.Markdown
