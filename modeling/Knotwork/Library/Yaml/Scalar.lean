import Knotwork.Library.Yaml.Cursor

/-!
Scalars as they are written: plain, in quotes, or as a block of lines. A reader is given the place
where a scalar starts, and gives its text and the place behind it. Its bound is the length of the rest
of the file.
-/

namespace Knotwork.Yaml

def plainLength (inBrackets : Bool) : Text → Nat
  | [] => 0
  | c :: rest =>
      let colon := c = ':' && !isGap (rest.headD '\x00')
      let stops := isGap c || (c = ':' && !inBrackets) || (inBrackets && ",:[]{}".toList.contains c)
      if colon || !stops then plainLength inBrackets rest + 1 else 0

def plainBreaks : Nat → Cursor → Text × Bool × Cursor
  | 0, cursor => ([], false, cursor)
  | bound + 1, cursor =>
      if cursor.isDivider then ([], true, cursor)
      else
        let cursor := cursor.skipWhile (· = ' ')
        match cursor.lineBreak? with
        | none => ([], false, cursor)
        | some (c, cursor) =>
            let (others, met, cursor) := plainBreaks bound cursor
            (c :: others, met, cursor)

structure Between where
  text : Text
  newLine : Bool
  cursor : Cursor

def readBetween (cursor : Cursor) : Between :=
  let (spaces, behind) := cursor.takeWhile (· = ' ')
  match behind.lineBreak? with
  | none => { text := spaces, newLine := false, cursor := behind }
  | some (first, next) =>
      let (others, met, last) := plainBreaks (next.rest.length + 1) next
      { text := if met then [] else fold first others, newLine := true, cursor := last }

structure Plain where
  text : Text
  atLineStart : Bool
  cursor : Cursor

def readPlain (inBrackets : Bool) (indent : Int) : Nat → Text → Bool → Cursor → Plain
  | 0, _, newLine, cursor => { text := [], atLineStart := newLine, cursor }
  | bound + 1, between, newLine, cursor =>
      let length := plainLength inBrackets cursor.rest
      if cursor.peek = '#' || length = 0 then { text := [], atLineStart := newLine, cursor }
      else
        let word := between ++ cursor.rest.take length
        let next := readBetween (cursor.forward length)
        if next.text = [] || next.cursor.peek = '#' ||
            (!inBrackets && Int.ofNat next.cursor.column < indent) then
          { text := word, atLineStart := next.newLine, cursor := next.cursor }
        else
          let rest := readPlain inBrackets indent bound next.text next.newLine next.cursor
          { rest with text := word ++ rest.text }

def hexDigit? (c : Char) : Option Nat :=
  if '0' ≤ c && c ≤ '9' then some (c.toNat - 48)
  else if 'a' ≤ c && c ≤ 'f' then some (c.toNat - 87)
  else if 'A' ≤ c && c ≤ 'F' then some (c.toNat - 55)
  else none

def escape? (c : Char) : Option Char :=
  match c with
  | '0' => some (Char.ofNat 0)
  | 'a' => some (Char.ofNat 7)
  | 'b' => some (Char.ofNat 8)
  | 't' => some '\t'
  | '\t' => some '\t'
  | 'n' => some '\n'
  | 'v' => some (Char.ofNat 11)
  | 'f' => some (Char.ofNat 12)
  | 'r' => some '\r'
  | 'e' => some (Char.ofNat 27)
  | ' ' => some ' '
  | '"' => some '"'
  | '/' => some '/'
  | '\\' => some '\\'
  | 'N' => some (Char.ofNat 0x85)
  | '_' => some (Char.ofNat 0xa0)
  | 'L' => some (Char.ofNat 0x2028)
  | 'P' => some (Char.ofNat 0x2029)
  | _ => none

def escapeDigits? (c : Char) : Option Nat :=
  match c with
  | 'x' => some 2
  | 'u' => some 4
  | 'U' => some 8
  | _ => none

def charOfCode (code : Nat) : Except Problem Char :=
  if 0x110000 ≤ code then .error .codeOutOfRange
  -- Half of a pair of units is no character, and a text has none.
  else if code.isValidChar then .ok (Char.ofNat code)
  else .error .malformed

def quotedBreaks : Nat → Cursor → Except Problem (Text × Cursor)
  | 0, _ => .error .malformed
  | bound + 1, cursor =>
      if cursor.isDivider then .error .malformed
      else
        let cursor := cursor.skipWhile fun c => c = ' ' || c = '\t'
        match cursor.lineBreak? with
        | none => .ok ([], cursor)
        | some (c, cursor) => do
            let (others, cursor) ← quotedBreaks bound cursor
            return (c :: others, cursor)

def readEscape (bound : Nat) (cursor : Cursor) : Except Problem (Text × Cursor) :=
  let c := cursor.peek
  match escape? c, escapeDigits? c with
  | some plain, _ => .ok ([plain], cursor.step)
  | none, some count => do
      let digits := cursor.step.rest.take count
      match digits.mapM hexDigit? with
      | some values =>
          if values.length < count then throw .malformed
          let plain ← charOfCode (values.foldl (fun n digit => n * 16 + digit) 0)
          return ([plain], cursor.step.forward count)
      | none => throw .malformed
  | none, none =>
      match cursor.lineBreak? with
      | some (_, next) => quotedBreaks bound next
      | none => .error .malformed

def readQuotedGap (bound : Nat) (cursor : Cursor) : Except Problem (Text × Cursor) := do
  let (blanks, cursor) := cursor.takeWhile fun c => c = ' ' || c = '\t'
  match cursor.lineBreak? with
  | none => return (blanks, cursor)
  | some (first, next) => do
      let (others, next) ← quotedBreaks bound next
      return (fold first others, next)

def readQuoted (quote : Char) : Nat → Cursor → Except Problem (Text × Cursor)
  | 0, _ => .error .malformed
  | bound + 1, cursor =>
      match cursor.rest with
      | [] => .error .malformed
      | c :: _ =>
          if c = quote then
            if quote = '\'' && cursor.ahead 1 = '\'' then do
              let (rest, cursor) ← readQuoted quote bound (cursor.forward 2)
              return ('\'' :: rest, cursor)
            else .ok ([], cursor.step)
          else if c = '\\' && quote = '"' then do
            let (plain, cursor) ← readEscape bound cursor.step
            let (rest, cursor) ← readQuoted quote bound cursor
            return (plain ++ rest, cursor)
          else if c = ' ' || c = '\t' || isBreak c then do
            let (gap, cursor) ← readQuotedGap bound cursor
            let (rest, cursor) ← readQuoted quote bound cursor
            return (gap ++ rest, cursor)
          else do
            let (rest, cursor) ← readQuoted quote bound cursor.step
            return (c :: rest, cursor)

inductive Chomping where
  | clip
  | strip
  | keep
deriving DecidableEq

structure BlockHead where
  chomping : Chomping := .clip
  indent : Option Nat := none
deriving DecidableEq

def chomping? (c : Char) : Option Chomping :=
  if c = '+' then some .keep else if c = '-' then some .strip else none

def indentDigit? (c : Char) : Option (Option Nat) :=
  if c.isDigit then some (if c = '0' then none else some (c.toNat - 48)) else none

def readBlockHead (cursor : Cursor) : Except Problem (BlockHead × Cursor) := do
  let digit (cursor : Cursor) : Except Problem (Option Nat × Cursor) :=
    match indentDigit? cursor.peek with
    | none => .ok (none, cursor)
    | some none => .error .malformed
    | some (some n) => .ok (some n, cursor.step)
  let (head, cursor) ← match chomping? cursor.peek with
    | some chomping => do
        let (indent, cursor) ← digit cursor.step
        pure ({ chomping, indent : BlockHead }, cursor)
    | none => do
        let (indent, cursor) ← digit cursor
        match indent, chomping? cursor.peek with
        | some _, some chomping => pure ({ chomping, indent : BlockHead }, cursor.step)
        | _, _ => pure ({ indent : BlockHead }, cursor)
  unless cursor.rest = [] || cursor.peek = ' ' || isBreak cursor.peek do throw .malformed
  let cursor := cursor.skipWhile (· = ' ')
  let cursor := if cursor.peek = '#' then cursor.skipWhile fun c => !isEnd c else cursor
  unless cursor.rest = [] || isBreak cursor.peek do throw .malformed
  return (head, match cursor.lineBreak? with
    | some (_, next) => next
    | none => cursor)

/-- The breaks before the first line of a block, and the greatest indentation among the blank lines
and that line. A blank line must not be indented less than a later one. -/
def blockStart : Nat → Option Nat → Nat → Cursor → Except Problem (Text × Nat × Cursor)
  | 0, _, _, _ => .error .malformed
  | bound + 1, first, most, cursor =>
      if cursor.peek = ' ' then
        let next := cursor.step
        blockStart bound first (max most next.column) next
      else match cursor.lineBreak? with
        | some (c, next) => do
            let (others, most, cursor) ←
              blockStart bound (some (first.getD cursor.column)) most next
            return (c :: others, most, cursor)
        | none =>
            match first with
            | some column => if 0 < column && column < most then .error .malformed
                else .ok ([], most, cursor)
            | none => .ok ([], most, cursor)

def blockBreaks (indent : Nat) : Nat → Cursor → Text × Cursor
  | 0, cursor => ([], cursor)
  | bound + 1, cursor =>
      let spaces := (cursor.rest.takeWhile (· = ' ')).length
      let cursor := cursor.forward (min spaces (indent - cursor.column))
      match cursor.lineBreak? with
      | none => ([], cursor)
      | some (c, next) =>
          let (others, last) := blockBreaks indent bound next
          (c :: others, last)

structure BlockLines where
  text : Text
  last : Text
  after : Text
  cursor : Cursor

def readBlockLines (folded divided : Bool) (indent : Nat) :
    Nat → Text → Text → Cursor → BlockLines
  | 0, before, last, cursor => { text := [], last, after := before, cursor }
  | bound + 1, before, last, cursor =>
      if cursor.column ≠ indent || cursor.rest = [] then
        { text := [], last, after := before, cursor }
      else
        let blank (c : Char) : Bool := c = ' ' || c = '\t'
        let startsBlank := blank cursor.peek
        let (line, behind) := cursor.takeWhile fun c => !isEnd c
        let (last, next) := match behind.lineBreak? with
          | some (c, next) => ([c], next)
          | none => ([], behind)
        let (breaks, next) := blockBreaks indent (next.rest.length + 1) next
        if (divided && next.column = 0 && next.isDivider) || next.column ≠ indent || next.rest = []
        then { text := before ++ line, last, after := breaks, cursor := next }
        else
          let joint : Text :=
            if folded && last = ['\n'] && !startsBlank && !blank next.peek then
              (if breaks = [] then [' '] else [])
            else last
          let rest := readBlockLines folded divided indent bound breaks last next
          { rest with text := before ++ line ++ joint ++ rest.text }

def readBlock (folded : Bool) (outer : Int) (cursor : Cursor) : Except Problem (Text × Cursor) := do
  let (head, cursor) ← readBlockHead cursor
  let least := (outer + 1).toNat
  let bound := cursor.rest.length + 1
  let (indent, breaks, cursor) ← match head.indent with
    | none => do
        let (breaks, most, cursor) ← blockStart bound none 0 cursor
        pure (max least most, breaks, cursor)
    | some n =>
        let indent := max least 1 + n - 1
        let (breaks, cursor) := blockBreaks indent bound cursor
        pure (indent, breaks, cursor)
  let lines := readBlockLines folded (least = 0) indent bound breaks [] cursor
  let tail := match head.chomping with
    | .clip => lines.last
    | .strip => []
    | .keep => lines.last ++ lines.after
  return (lines.text ++ tail, lines.cursor)

end Knotwork.Yaml
