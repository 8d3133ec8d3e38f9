import Knotwork.Library.Basic
import Knotwork.Library.Console.Emoji
import Knotwork.Library.Console.Parameters
import Knotwork.Library.Console.Style

/-!
Console markup: style tags in square brackets, which are not shown. Text of others is escaped before
it is put between tags.
-/

namespace Knotwork.Markup

def startsTag (c : Char) : Bool := ('a' ≤ c && c ≤ 'z') || c = '#' || c = '/' || c = '@'

def untilBracket : Text → Option (Text × Text)
  | [] => none
  | c :: rest =>
      if c = ']' then some ([], rest)
      else if c = '[' then none
      else (untilBracket rest).map fun (inside, after) => (c :: inside, after)

def bracketed? : Text → Option (Text × Text)
  | [] => none
  | c :: rest =>
      if startsTag c then (untilBracket rest).map fun (inside, after) => (c :: inside, after)
      else none

/-- Escapes brackets that would be read as tags. The backslashes before them are doubled. `skip` is
the number of characters that are already written. -/
def escapeFrom (slashes : Nat) : Nat → Text → Text
  | _, [] => List.replicate slashes '\\'
  | skip + 1, c :: rest => c :: escapeFrom 0 skip rest
  | 0, c :: rest =>
      if c = '\\' then escapeFrom (slashes + 1) 0 rest
      else if c = '[' then
        match bracketed? rest with
        | some (inside, _) =>
            List.replicate (2 * slashes + 1) '\\' ++ '[' :: escapeFrom 0 (inside.length + 1) rest
        | none => List.replicate slashes '\\' ++ c :: escapeFrom 0 0 rest
      else List.replicate slashes '\\' ++ c :: escapeFrom 0 0 rest

def escape (t : Text) : Text :=
  let escaped := escapeFrom 0 0 t
  if List.isSuffixOf ['\\'] escaped && !(List.isSuffixOf ['\\', '\\'] escaped) then escaped ++ ['\\']
  else escaped

inductive Piece where
  | plain (t : Text)
  | tag (content : Text)
deriving DecidableEq

/-- The pieces of a text. `held` is plain text that is not given out yet, in reverse, without the
backslashes right before the present place; `skip` characters belong to a tag. -/
def piecesFrom (held : Text) (slashes : Nat) : Nat → Text → List Piece
  | _, [] => [.plain (List.replicate slashes '\\' ++ held).reverse]
  | skip + 1, _ :: rest => piecesFrom held slashes skip rest
  | 0, c :: rest =>
      if c = '\\' then piecesFrom held (slashes + 1) 0 rest
      else if c = '[' then
        match bracketed? rest with
        | some (inside, _) =>
            [.plain held.reverse, .plain (List.replicate (slashes / 2) '\\')] ++
              (if slashes % 2 = 1 then .plain ('[' :: inside ++ [']']) else .tag inside) ::
              piecesFrom [] 0 (inside.length + 1) rest
        | none => piecesFrom (c :: List.replicate slashes '\\' ++ held) 0 0 rest
      else piecesFrom (c :: List.replicate slashes '\\' ++ held) 0 0 rest

def pieces (markup : Text) : List Piece := piecesFrom [] 0 0 markup

def isSilent (c : Char) : Bool := [7, 8, 11, 12, 13].contains c.toNat

structure OpenTag where
  name : Text
  parameters : Text := []
deriving DecidableEq

def splitTag (content : Text) : Text × Text := (Text.cut? ['='] content).getD (content, [])

def nameOf (name : Text) : Except Fault Text := (Console.normalName name).mapError fun _ => .numberMissing

def takeTag? (name : Text) : List OpenTag → Option (OpenTag × List OpenTag)
  | [] => none
  | tag :: outer =>
      if tag.name = name then some (tag, outer)
      else (takeTag? name outer).map fun (found, others) => (found, tag :: others)

/-- Closes a tag: the one of a name, or the last one if there is no name. Its parameters are looked at
only now, and only those of actions. -/
def closeTag (tags : List OpenTag) (name : Text) : Except Fault (List OpenTag) := do
  let found ← if name = [] then
      pure (tags.head?.map fun tag => (tag, tags.tail))
    else do
      let name ← nameOf name
      pure (takeTag? name tags)
  match found with
  | none => throw .unmatched
  | some (tag, others) =>
      if tag.name.head? = some '@' && tag.parameters ≠ [] &&
          !Console.areParametersValid tag.parameters then throw .badParameters
      return others

def showFrom : List OpenTag → List Piece → Except Fault Text
  | _, [] => .ok []
  | tags, .plain t :: rest => do
      let shown := Console.withPictures (Text.replace ['\\', '['] ['['] t)
      return shown.filter (fun c => !isSilent c) ++ (← showFrom tags rest)
  | tags, .tag content :: rest => do
      let (name, parameters) := splitTag content
      match name with
      | '/' :: name => showFrom (← closeTag tags (Text.trim name)) rest
      | _ => showFrom ({ name := ← nameOf name, parameters } :: tags) rest

def plain (markup : Text) : Except Fault Text := showFrom [] (pieces markup)

end Knotwork.Markup
