import Knotwork.Story.Basic

/-!
Diagrams: what is drawn of a story, one box for every node or for every knot.
-/

namespace Knotwork

structure Box where
  id : Text
  label : Text
  scene : Text := []
  isStart : Bool := false
  isEnding : Bool := false
  isDeadEnd : Bool := false
deriving DecidableEq

structure Arc where
  source : Text
  target : Text
  label : Text := []
  changesState : Bool := false
  stitch : Option Text := none
deriving DecidableEq

structure Diagram where
  boxes : List Box
  arcs : List Arc
  scenes : List Text
deriving DecidableEq

namespace Node

def labelOfState (node : Node) : Text :=
  match (node.state.sorted.filter Prod.snd).map Prod.fst with
  | [] => "-"
  | names => Text.joinWith ", " names

def boxId (collapse : Bool) (node : Node) : Text := if collapse then node.knot else node.id

def box (collapse : Bool) (entry : Text) (node : Node) : Box :=
  { id := node.boxId collapse
    label := if collapse then node.knot else node.knot ++ ['\n'] ++ node.labelOfState
    scene := node.scene
    isStart := node.id = entry
    isEnding := node.isEnd
    isDeadEnd := node.isDeadEnd }

end Node

namespace Diagram

def addBox (boxes : Table Box) (box : Box) : Table Box :=
  match boxes.find? box.id with
  | none => boxes.insert box.id box
  | some earlier =>
      boxes.insert box.id
        { earlier with
          isStart := earlier.isStart || box.isStart
          isDeadEnd := earlier.isDeadEnd || box.isDeadEnd }

def arc (graph : Graph) (collapse : Bool) (source : Node) (edge : Edge) :
    Except Table.UnknownKey Arc := do
  let target ← graph.nodes.get edge.target
  return { source := source.boxId collapse, target := target.boxId collapse, label := edge.text,
           changesState := !source.state.same target.state, stitch := edge.stitch }

def mergeArcs : List Arc → List Arc
  | [] => []
  | arc :: rest =>
      arc :: (mergeArcs rest).filter fun other =>
        !(other.source = arc.source && other.target = arc.target && other.label = arc.label)

end Diagram

def Graph.diagram (graph : Graph) (collapse : Bool := false) :
    Except Table.UnknownKey Diagram := do
  let nodes := graph.nodes.values
  let boxes := (nodes.map (Node.box collapse graph.entry)).foldl Diagram.addBox Table.empty
  let arcs ← graph.edges.mapM fun (node, edge) => Diagram.arc graph collapse node edge
  return { boxes := boxes.values
           arcs := if collapse then Diagram.mergeArcs arcs else arcs
           scenes := firstOfEach (nodes.map Node.scene) }

/-! The colours of diagrams. -/

namespace Palette

def start : Text := "#90EE90"
def ending : Text := "#FFB6C1"
def noScene : Text := "#D3D3D3"
def stateChange : Text := "#6A5ACD"
def deadEnd : Text := "#FF4500"

def scenes : List Text :=
  ["#ADD8E6", "#FFD700", "#FFA07A", "#98FB98", "#DDA0DD", "#87CEEB", "#F0E68C"]

def ofScenes (order : List Text) : Table Text :=
  Table.ofPairs <| (order.filter fun name => name ≠ []).zipIdx.map fun (name, place) =>
    (name, scenes.getD (place % scenes.length) noScene)

end Palette

end Knotwork
