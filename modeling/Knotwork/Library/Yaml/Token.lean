import Knotwork.Library.Yaml.Scalar

/-!
Tokens of a settings file. Indentation shows as tokens that start and end blocks. A word turns out to
be a key only when its colon is found, so keys are noted by the number of their first token and set in
at the end.
-/

namespace Knotwork.Yaml

inductive Bracket where
  | square
  | curly
deriving DecidableEq

inductive Token where
  | directive (name : Text) (value : Text)
  | documentStart
  | documentEnd
  | opening (bracket : Bracket)
  | closing (bracket : Bracket)
  | comma
  | listStart
  | mapStart
  | blockEnd
  | item
  | key
  | value
  | reference (name : Text)
  | anchor (name : Text)
  | tag (handle : Option Text) (suffix : Text)
  | scalar (isPlain : Bool) (text : Text)
deriving DecidableEq

/-- A place where a key may have started: the number of its first token, and where that stands. A key
is required where nothing else can stand. -/
structure KeyStart where
  number : Nat
  required : Bool
  cursor : Cursor
deriving DecidableEq

structure KeyMark where
  number : Nat
  startsMap : Bool
deriving DecidableEq

/-- The state of reading tokens. Tokens stand in reverse order. Key starts are kept for each depth of
brackets. -/
structure Scan where
  cursor : Cursor
  indent : Int := -1
  outer : List Int := []
  brackets : List Bracket := []
  tokens : List Token := []
  keys : List KeyMark := []
  starts : List (Nat × KeyStart) := []
  keyAllowed : Bool := true
deriving DecidableEq

namespace Scan

def depth (scan : Scan) : Nat := scan.brackets.length

def inBrackets (scan : Scan) : Bool := !scan.brackets.isEmpty

def push (scan : Scan) (token : Token) : Scan := { scan with tokens := token :: scan.tokens }

/-- Skips blanks, remarks and line breaks. Tabs are blanks only in brackets. After a line break a key
may start, except in brackets. -/
def skipBlanks : Nat → Scan → Scan
  | 0, scan => scan
  | bound + 1, scan =>
      let cursor := scan.cursor.skipWhile fun c => c = ' ' || (scan.inBrackets && c = '\t')
      let cursor := if cursor.peek = '#' then cursor.skipWhile fun c => !isEnd c else cursor
      match cursor.lineBreak? with
      | none => { scan with cursor }
      | some (_, cursor) =>
          skipBlanks bound { scan with cursor, keyAllowed := scan.keyAllowed || !scan.inBrackets }

/-- Whether a key start is too far back: keys stand on one line and have at most 1024 characters. -/
def isStale (scan : Scan) (start : KeyStart) : Bool :=
  start.cursor.line ≠ scan.cursor.line || start.cursor.index + 1024 < scan.cursor.index

def dropStale (scan : Scan) : Except Problem Scan :=
  if scan.starts.any fun (_, start) => scan.isStale start && start.required then .error .malformed
  else .ok { scan with starts := scan.starts.filter fun (_, start) => !scan.isStale start }

def dropStart (scan : Scan) : Except Problem Scan :=
  match scan.starts.lookup scan.depth with
  | some { required := true, .. } => .error .malformed
  | _ => .ok { scan with starts := scan.starts.filter fun (depth, _) => depth ≠ scan.depth }

def noteStart (scan : Scan) : Except Problem Scan := do
  let required := !scan.inBrackets && scan.indent = Int.ofNat scan.cursor.column
  if !scan.keyAllowed then return scan
  let scan ← scan.dropStart
  let start : KeyStart := { number := scan.tokens.length, required, cursor := scan.cursor }
  return { scan with starts := (scan.depth, start) :: scan.starts }

def unwind (column : Int) : Nat → Scan → Scan
  | 0, scan => scan
  | bound + 1, scan =>
      if scan.inBrackets || scan.indent ≤ column then scan
      else
        let scan := { scan with indent := scan.outer.headD (-1), outer := scan.outer.tail }
        unwind column bound (scan.push .blockEnd)

def unwindTo (scan : Scan) (column : Int) : Scan := scan.unwind column (scan.outer.length + 1)

def startBlock (scan : Scan) (column : Nat) : Option Scan :=
  if scan.indent < Int.ofNat column then
    some { scan with outer := scan.indent :: scan.outer, indent := column }
  else none

def single (scan : Scan) (token : Token) : Scan :=
  { scan.push token with cursor := scan.cursor.step }

def divider (scan : Scan) (token : Token) : Except Problem Scan := do
  let scan ← (scan.unwindTo (-1)).dropStart
  return { scan.push token with cursor := scan.cursor.forward 3, keyAllowed := false }

def readDirective (scan : Scan) : Except Problem Scan := do
  let scan ← (scan.unwindTo (-1)).dropStart
  let (name, cursor) := scan.cursor.step.takeWhile fun c => !isGap c
  let cursor := cursor.skipWhile (· = ' ')
  let (value, cursor) := cursor.takeWhile fun c => !isEnd c && c ≠ '#'
  let cursor := cursor.skipWhile fun c => !isEnd c
  unless name ≠ [] do throw .malformed
  return { scan.push (.directive name value) with cursor, keyAllowed := false }

def openBracket (scan : Scan) (bracket : Bracket) : Except Problem Scan := do
  let scan ← scan.noteStart
  return { scan.single (.opening bracket) with
    brackets := bracket :: scan.brackets, keyAllowed := true }

def closeBracket (scan : Scan) (bracket : Bracket) : Except Problem Scan := do
  let scan ← scan.dropStart
  return { scan.single (.closing bracket) with
    brackets := scan.brackets.tail, keyAllowed := false }

def readItem (scan : Scan) : Except Problem Scan := do
  let scan ← if scan.inBrackets then pure scan
    else if !scan.keyAllowed then throw .malformed
    else match scan.startBlock scan.cursor.column with
      | some started => pure (started.push .listStart)
      | none => pure scan
  let scan ← scan.dropStart
  return { scan.single .item with keyAllowed := true }

def readMapMark (scan : Scan) (token : Token) : Except Problem Scan := do
  let scan ← if scan.inBrackets then pure scan
    else if !scan.keyAllowed then throw .malformed
    else match scan.startBlock scan.cursor.column with
      | some started => pure (started.push .mapStart)
      | none => pure scan
  let scan ← scan.dropStart
  return { scan.single token with keyAllowed := !scan.inBrackets }

def readValue (scan : Scan) : Except Problem Scan :=
  match scan.starts.lookup scan.depth with
  | none => scan.readMapMark .value
  | some start =>
      let scan := { scan with starts := scan.starts.filter fun (depth, _) => depth ≠ scan.depth }
      let (scan, startsMap) := if scan.inBrackets then (scan, false)
        else match scan.startBlock start.cursor.column with
          | some started => (started, true)
          | none => (scan, false)
      .ok { scan.single .value with
        keys := ⟨start.number, startsMap⟩ :: scan.keys, keyAllowed := false }

def isNameChar (c : Char) : Bool := !isGap c && !isBreak c && !",[]{}".toList.contains c

def readName (scan : Scan) (token : Text → Token) : Except Problem Scan := do
  let scan ← scan.noteStart
  let (name, cursor) := scan.cursor.step.takeWhile isNameChar
  unless name ≠ [] do throw .malformed
  return { scan.push (token name) with cursor, keyAllowed := false }

def isHandleChar (c : Char) : Bool := c.isAlphanum || c = '-' || c = '_'

/-- The parts of a tag from behind its exclamation mark. A full name stands in angle brackets; else
what stands up to a second mark is a handle for a group of tags. A mark alone is a full name too. -/
def splitTag (written : Text) : Except Problem (Option Text × Text) :=
  match written with
  | [] => .ok (none, ['!'])
  | '<' :: rest =>
      if rest.getLast? = some '>' && 1 < rest.length then .ok (none, rest.dropLast)
      else .error .malformed
  | rest =>
      match Text.cut? ['!'] rest with
      | none => .ok (some ['!'], rest)
      | some (word, suffix) =>
          if word.all isHandleChar && suffix ≠ [] then .ok (some (['!'] ++ word ++ ['!']), suffix)
          else .error .malformed

def readTag (scan : Scan) : Except Problem Scan := do
  let scan ← scan.noteStart
  let (written, cursor) := scan.cursor.step.takeWhile fun c => !isGap c && !isBreak c
  let (handle, suffix) ← splitTag written
  return { scan.push (.tag handle suffix) with cursor, keyAllowed := false }

def readBlockScalar (scan : Scan) (folded : Bool) : Except Problem Scan := do
  let scan ← scan.dropStart
  let (text, cursor) ← readBlock folded scan.indent scan.cursor.step
  return { scan.push (.scalar false text) with cursor, keyAllowed := true }

def readQuotedScalar (scan : Scan) (quote : Char) : Except Problem Scan := do
  let scan ← scan.noteStart
  let (text, cursor) ← readQuoted quote (scan.cursor.rest.length + 1) scan.cursor.step
  return { scan.push (.scalar false text) with cursor, keyAllowed := false }

def readPlainScalar (scan : Scan) : Except Problem Scan := do
  let scan ← scan.noteStart
  let plain := readPlain scan.inBrackets (scan.indent + 1) (scan.cursor.rest.length + 1) [] false
    scan.cursor
  return { scan.push (.scalar true plain.text) with
    cursor := plain.cursor, keyAllowed := plain.atLineStart }

/-- Whether a colon stands before a value. In square brackets, and right after another colon in curly
ones, it needs a gap behind it; else it does so only outside brackets. -/
def isValueMark (scan : Scan) : Bool :=
  isGap (scan.cursor.ahead 1) ||
    match scan.brackets, scan.tokens with
    | .curly :: _, .value :: _ => false
    | .curly :: _, _ => true
    | _, _ => false

def startsPlain (scan : Scan) : Bool :=
  let c := scan.cursor.peek
  let next := scan.cursor.ahead 1
  if !(isGap c || isBreak c || "-?:,[]{}#&*!|>'\"%@`".toList.contains c) then true
  else if c = '-' then !isGap next
  else if c = ':' && scan.inBrackets then next ≠ ' ' && next ≠ '\t'
  else !isGap next && !scan.inBrackets && (c = '?' || c = ':')

def readToken (scan : Scan) : Except Problem Scan :=
  let cursor := scan.cursor
  let c := cursor.peek
  let gapFollows := isGap (cursor.ahead 1)
  if c = '%' && cursor.column = 0 then scan.readDirective
  else if c = '-' && cursor.column = 0 && cursor.isDivider then scan.divider .documentStart
  else if c = '.' && cursor.column = 0 && cursor.isDivider then scan.divider .documentEnd
  else if c = '[' then scan.openBracket .square
  else if c = '{' then scan.openBracket .curly
  else if c = ']' then scan.closeBracket .square
  else if c = '}' then scan.closeBracket .curly
  else if c = ',' then do
    let scan ← scan.dropStart
    return { scan.single .comma with keyAllowed := true }
  else if c = '-' && gapFollows then scan.readItem
  else if c = '?' && (scan.inBrackets || gapFollows) then scan.readMapMark .key
  else if c = ':' && scan.isValueMark then scan.readValue
  else if c = '*' then scan.readName .reference
  else if c = '&' then scan.readName .anchor
  else if c = '!' then scan.readTag
  else if c = '|' && !scan.inBrackets then scan.readBlockScalar false
  else if c = '>' && !scan.inBrackets then scan.readBlockScalar true
  else if c = '\'' || c = '"' then scan.readQuotedScalar c
  else if scan.startsPlain then scan.readPlainScalar
  else .error .malformed

/-- Reads all tokens. Each one takes at least one character of the text, whose length is the bound. -/
def readTokens : Nat → Scan → Except Problem Scan
  | 0, _ => .error .malformed
  | bound + 1, scan => do
      let scan ← (scan.skipBlanks (scan.cursor.rest.length + 1)).dropStale
      let scan := scan.unwindTo scan.cursor.column
      if scan.cursor.rest = [] then (scan.unwindTo (-1)).dropStart
      else readTokens bound (← scan.readToken)

def withKeys (keys : List KeyMark) : Nat → List Token → List Token
  | _, [] => []
  | number, token :: rest =>
      let before := match keys.find? fun mark => mark.number = number with
        | some mark => (if mark.startsMap then [Token.mapStart] else []) ++ [Token.key]
        | none => []
      before ++ token :: withKeys keys (number + 1) rest

end Scan

def tokensOf (t : Text) : Except Problem (List Token) := do
  unless t.all isAllowed do throw .malformed
  let cursor : Cursor := { rest := t }
  let cursor := if cursor.peek.toNat = 0xfeff then cursor.step else cursor
  let scan ← Scan.readTokens (t.length + 1) { cursor }
  return Scan.withKeys scan.keys 0 scan.tokens.reverse

end Knotwork.Yaml
