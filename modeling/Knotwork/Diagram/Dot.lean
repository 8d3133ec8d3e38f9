import Knotwork.Diagram.Basic

/-!
Diagrams in the DOT language.
-/

namespace Knotwork.Diagram.Dot

/-- Text inside a DOT string. Backslashes are escaped first, so that those of other escapes are not. -/
def escape (t : Text) : Text :=
  Text.replace ['\n'] "\\n" (Text.replace ['"'] "\\\"" (Text.replace ['\\'] "\\\\" t))

def quote (t : Text) : Text := '"' :: escape t ++ ['"']

def assign (name value : Text) : Text := name ++ ['='] ++ value

def boxAttributes (colours : Table Text) (box : Box) : List Text :=
  let (shape, fill) : Text × Text :=
    if box.isStart then ("doubleoctagon", Palette.start)
    else if box.isEnding then ("octagon", Palette.ending)
    else ("box", (colours.find? box.scene).getD Palette.noScene)
  [assign "shape" shape, assign "fillcolor" (quote fill)] ++
    (if box.isDeadEnd then
      [assign "color" (quote Palette.deadEnd), assign "penwidth" (quote "2.5")]
    else []) ++
    [assign "label" (quote box.label)]

def arcAttributes (labels : Bool) (arc : Arc) : List Text :=
  (if labels && arc.label ≠ [] then [assign "label" (quote arc.label)] else []) ++
    (if arc.stitch.getD [] ≠ [] then [assign "style" (quote "dashed")] else []) ++
    if arc.changesState then
      [assign "color" (quote Palette.stateChange), assign "penwidth" (quote "2")]
    else []

def boxLine (colours : Table Text) (box : Box) : Text :=
  "  " ++ quote box.id ++ " [" ++ Text.joinWith " " (boxAttributes colours box) ++ "];"

def arcLine (labels : Bool) (arc : Arc) : Text :=
  "  " ++ quote arc.source ++ " -> " ++ quote arc.target ++
    (match arcAttributes labels arc with
      | [] => []
      | attributes => " [" ++ Text.joinWith " " attributes ++ "]") ++ ";"

def opening : List Text :=
  ["digraph story \x7b", "  rankdir=LR;",
   "  node [fontname=\"Helvetica\" fontsize=10 style=\"filled,solid\"];",
   "  edge [fontname=\"Helvetica\" fontsize=8];", ""]

end Dot

def toDot (diagram : Diagram) (labels : Bool := true) : Text :=
  let colours := Palette.ofScenes diagram.scenes
  Text.joinWith ['\n']
    (Dot.opening ++ diagram.boxes.map (Dot.boxLine colours) ++ [] ::
      diagram.arcs.map (Dot.arcLine labels) ++ [['}']])

end Knotwork.Diagram
