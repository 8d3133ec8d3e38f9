import Knotwork.Diagram.Basic

/-!
Diagrams in the Mermaid language. Boxes are numbered, because their identities hold characters that
the language does not allow.
-/

namespace Knotwork.Diagram.Mermaid

def escape (t : Text) : Text :=
  Text.replace ['\n'] "<br/>" (Text.replace ['"'] "&quot;" t)

def quote (t : Text) : Text := '"' :: escape t ++ ['"']

def boxName (number : Nat) : Text := 'n' :: Text.ofNat number

def names (boxes : List Box) : Table Text :=
  Table.ofPairs (boxes.zipIdx.map fun (box, number) => (box.id, boxName number))

def boxLine (names : Table Text) (box : Box) : Except Table.UnknownKey Text := do
  let name ← names.get box.id
  return "  " ++ name ++
    if box.isStart then "[" ++ quote box.label ++ "]:::start"
    else if box.isEnding then "([" ++ quote box.label ++ "]):::ending"
    else if box.isDeadEnd then "[" ++ quote box.label ++ "]:::deadEnd"
    else "[" ++ quote box.label ++ "]"

def arcLine (labels : Bool) (names : Table Text) (arc : Arc) : Except Table.UnknownKey Text := do
  let source ← names.get arc.source
  let target ← names.get arc.target
  return "  " ++ source ++ (if arc.stitch.getD [] ≠ [] then " -.->" else " -->") ++
    (if labels && arc.label ≠ [] then "|" ++ quote arc.label ++ "|" else []) ++ " " ++ target

def changes (arcs : List Arc) : List Nat :=
  (arcs.zipIdx.filter fun (arc, _) => arc.changesState).map Prod.snd

def changeLines (arcs : List Arc) : List Text :=
  match changes arcs with
  | [] => []
  | places =>
      ["  linkStyle " ++ Text.joinWith [','] (places.map Text.ofNat) ++ " stroke:" ++
        Palette.stateChange ++ ",stroke-width:2px"]

end Mermaid

def Mermaid.classLines : List Text :=
  ["  classDef start fill:" ++ Palette.start ++ ",stroke:#333",
   "  classDef ending fill:" ++ Palette.ending ++ ",stroke:#333",
   "  classDef deadEnd stroke:" ++ Palette.deadEnd ++ ",stroke-width:3px"]

def toMermaid (diagram : Diagram) (labels : Bool := true) : Except Table.UnknownKey Text := do
  let names := Mermaid.names diagram.boxes
  let boxLines ← diagram.boxes.mapM (Mermaid.boxLine names)
  let arcLines ← diagram.arcs.mapM (Mermaid.arcLine labels names)
  return Text.joinWith ['\n']
    ("graph LR".toList :: boxLines ++ [] :: arcLines ++ [] ::
      Mermaid.classLines ++ Mermaid.changeLines diagram.arcs)

end Knotwork.Diagram
