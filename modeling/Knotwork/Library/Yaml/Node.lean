import Knotwork.Library.Yaml.Token
import Knotwork.Text.Blank

/-!
Nodes: the tree of a settings file, as its tokens build it up.
-/

namespace Knotwork.Yaml

inductive Kind where
  | byContent
  | asText
  | named (name : Text)
deriving DecidableEq

inductive Node where
  | scalar (kind : Kind) (text : Text)
  | list (kind : Kind) (items : List Node)
  | map (kind : Kind) (members : List (Node × Node))

namespace Node

def empty : Node := .scalar .byContent []

end Node

def standardHandles : List (Text × Text) := [(['!'], ['!']), (['!', '!'], "tag:yaml.org,2002:")]

/-- The tokens that are left, the handles of tags, and the nodes that have a name. A node has its name
only when it is complete, so none refers to itself. -/
structure Reading where
  tokens : List Token
  handles : List (Text × Text) := standardHandles
  anchors : List (Text × Node) := []

namespace Reading

def next? (reading : Reading) : Option Token := reading.tokens.head?

def drop (reading : Reading) : Reading := { reading with tokens := reading.tokens.tail }

def isAt (reading : Reading) (tokens : List Token) : Bool :=
  match reading.next? with
  | some token => tokens.contains token
  | none => false

def expect (reading : Reading) (token : Token) : Except Problem Reading :=
  if reading.next? = some token then .ok reading.drop else .error .malformed

def tagName (reading : Reading) (handle : Option Text) (suffix : Text) : Except Problem Text :=
  match handle with
  | none => .ok suffix
  | some handle =>
      match reading.handles.lookup handle with
      | some group => .ok (group ++ suffix)
      | none => .error .malformed

def readMarks (reading : Reading) : Except Problem (Option Text × Option Text × Reading) :=
  match reading.tokens with
  | .anchor name :: .tag handle suffix :: rest
  | .tag handle suffix :: .anchor name :: rest => do
      return (some name, some (← reading.tagName handle suffix), { reading with tokens := rest })
  | .anchor name :: rest => .ok (some name, none, { reading with tokens := rest })
  | .tag handle suffix :: rest => do
      return (none, some (← reading.tagName handle suffix), { reading with tokens := rest })
  | _ => .ok (none, none, reading)

def kindOf (tag : Option Text) : Kind :=
  match tag with
  | some name => if name = ['!'] then .byContent else .named name
  | none => .byContent

structure Context where
  blocks : Bool
  bareList : Bool := false

mutual

/-- Reads a node. Each step down the tree takes one from the bound, which is the number of tokens. -/
def readNode (context : Context) : Nat → Reading → Except Problem (Node × Reading)
  | 0, _ => .error .malformed
  | bound + 1, reading =>
      match reading.next? with
      | some (.reference name) =>
          match reading.anchors.lookup name with
          | some node => .ok (node, reading.drop)
          | none => .error .malformed
      | _ => do
          let (name, tag, behind) ← reading.readMarks
          let kind := kindOf tag
          let (node, last) ← match behind.next? with
            | some (.scalar isPlain text) =>
                let kind := match tag with
                  | none => if isPlain then .byContent else .asText
                  | some _ => kind
                pure (.scalar kind text, behind.drop)
            | some (.opening .square) => do
                let (items, last) ← readBracketItems true bound behind.drop
                pure (.list kind items, last)
            | some (.opening .curly) => do
                let (members, last) ← readBracketMembers true bound behind.drop
                pure (.map kind members, last)
            | some .item =>
                if context.bareList then do
                  let (items, last) ← readBareItems bound behind
                  pure (.list kind items, last)
                else if name.isSome || tag.isSome then pure (.scalar kind [], behind)
                else throw .malformed
            | some .listStart =>
                if context.blocks then do
                  let (items, last) ← readItems bound behind.drop
                  pure (.list kind items, last)
                else throw .malformed
            | some .mapStart =>
                if context.blocks then do
                  let (members, last) ← readMembers bound behind.drop
                  pure (.map kind members, last)
                else throw .malformed
            | _ =>
                if name.isSome || tag.isSome then pure (.scalar kind [], behind)
                else throw .malformed
          return (node, match name with
            | some name => { last with anchors := (name, node) :: last.anchors }
            | none => last)

def readOptional (context : Context) (stops : List Token) :
    Nat → Reading → Except Problem (Node × Reading)
  | 0, _ => .error .malformed
  | bound + 1, reading =>
      if reading.isAt stops then .ok (Node.empty, reading) else readNode context bound reading

def readItems : Nat → Reading → Except Problem (List Node × Reading)
  | 0, _ => .error .malformed
  | bound + 1, reading =>
      if reading.next? = some .item then do
        let (item, reading) ← readOptional { blocks := true } [.item, .blockEnd] bound reading.drop
        let (items, reading) ← readItems bound reading
        return (item :: items, reading)
      else do
        let reading ← reading.expect .blockEnd
        return ([], reading)

def readBareItems : Nat → Reading → Except Problem (List Node × Reading)
  | 0, _ => .error .malformed
  | bound + 1, reading =>
      if reading.next? = some .item then do
        let (item, reading) ←
          readOptional { blocks := true } [.item, .key, .value, .blockEnd] bound reading.drop
        let (items, reading) ← readBareItems bound reading
        return (item :: items, reading)
      else .ok ([], reading)

def readMembers : Nat → Reading → Except Problem (List (Node × Node) × Reading)
  | 0, _ => .error .malformed
  | bound + 1, reading =>
      let context : Context := { blocks := true, bareList := true }
      let stops : List Token := [.key, .value, .blockEnd]
      if reading.isAt [.key, .value] then do
        let (key, reading) ← if reading.next? = some .key then
            readOptional context stops bound reading.drop
          else pure (Node.empty, reading)
        let (value, reading) ← if reading.next? = some .value then
            readOptional context stops bound reading.drop
          else pure (Node.empty, reading)
        let (members, reading) ← readMembers bound reading
        return ((key, value) :: members, reading)
      else do
        let reading ← reading.expect .blockEnd
        return ([], reading)

def readPair (bracket : Bracket) : Nat → Reading → Except Problem ((Node × Node) × Reading)
  | 0, _ => .error .malformed
  | bound + 1, reading => do
      let context : Context := { blocks := false }
      let (key, reading) ← if reading.next? = some .key then
          readOptional context [.value, .comma, .closing bracket] bound reading.drop
        else if reading.next? = some .value then pure (Node.empty, reading)
        else readNode context bound reading
      let (value, reading) ← if reading.next? = some .value then
          readOptional context [.comma, .closing bracket] bound reading.drop
        else pure (Node.empty, reading)
      return ((key, value), reading)

def readBracketItems (isFirst : Bool) : Nat → Reading → Except Problem (List Node × Reading)
  | 0, _ => .error .malformed
  | bound + 1, reading =>
      if reading.next? = some (.closing .square) then .ok ([], reading.drop)
      else do
        let reading ← if isFirst then pure reading else reading.expect .comma
        if reading.next? = some (.closing .square) then return ([], reading.drop)
        let (item, reading) ← if reading.next? = some .key then do
            let (pair, reading) ← readPair .square bound reading
            pure (Node.map .byContent [pair], reading)
          else readNode { blocks := false } bound reading
        let (items, reading) ← readBracketItems false bound reading
        return (item :: items, reading)

def readBracketMembers (isFirst : Bool) :
    Nat → Reading → Except Problem (List (Node × Node) × Reading)
  | 0, _ => .error .malformed
  | bound + 1, reading =>
      if reading.next? = some (.closing .curly) then .ok ([], reading.drop)
      else do
        let reading ← if isFirst then pure reading else reading.expect .comma
        if reading.next? = some (.closing .curly) then return ([], reading.drop)
        let isPair := reading.isAt [.key, .value]
        let (member, reading) ← if isPair then readPair .curly bound reading
          else do
            let (key, reading) ← readNode { blocks := false } bound reading
            pure ((key, Node.empty), reading)
        let (members, reading) ← readBracketMembers false bound reading
        return (member :: members, reading)

end

def isVersionKnown (version : Text) : Bool :=
  match Text.cut? ['.'] (version.takeWhile (· ≠ ' ')) with
  | some (major, minor) => major = ['1'] && minor ≠ [] && minor.all Char.isDigit
  | none => false

def readHandle (declaration : Text) : Except Problem (Text × Text) :=
  match Text.cut? [' '] declaration with
  | some (handle, rest) =>
      let inner := (handle.drop 1).dropLast
      let isHandle := handle = ['!'] ||
        (1 < handle.length && handle = ['!'] ++ inner ++ ['!'] && inner.all Scan.isHandleChar)
      let group := Text.trim rest
      if isHandle && group ≠ [] && !group.contains ' ' then .ok (handle, group)
      else .error .malformed
  | none => .error .malformed

/-- Reads the directives before a document, and gives the handles and the tokens behind them. The
version and each handle may be told once. -/
def readDirectives (told : Bool) (handles : List (Text × Text)) :
    List Token → Except Problem (List (Text × Text) × List Token)
  | .directive name value :: rest =>
      if name = "YAML" then
        if told || !isVersionKnown value then .error .malformed else readDirectives true handles rest
      else if name = "TAG" then do
        let (handle, group) ← readHandle value
        if (handles.lookup handle).isSome then throw .malformed
        readDirectives told ((handle, group) :: handles) rest
      else readDirectives told handles rest
  | tokens => .ok (handles ++ standardHandles, tokens)

def readDocument (tokens : List Token) : Except Problem (Option Node) := do
  let bound := 4 * tokens.length + 4
  let finish (reading : Reading) : Except Problem Unit :=
    match reading.tokens with
    | [] | [.documentEnd] => .ok ()
    | _ => .error .malformed
  match tokens with
  | [] => return none
  | first :: _ =>
      let explicit := match first with
        | .directive .. | .documentStart => true
        | _ => false
      if explicit then
        let (handles, tokens) ← readDirectives false [] tokens
        let reading ← Reading.expect { tokens, handles } .documentStart
        if reading.tokens = [] || reading.next? = some .documentEnd then
          finish reading
          return some Node.empty
        let (node, reading) ← readNode { blocks := true } bound reading
        finish reading
        return some node
      else
        let (node, reading) ← readNode { blocks := true } bound { tokens }
        finish reading
        return some node

end Reading

end Knotwork.Yaml
