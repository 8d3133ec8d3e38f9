import Knotwork.Script.Basic
import Knotwork.Story.Report
import Knotwork.Text.Case

/-!
Summaries: figures that an author looks at after compiling.
-/

namespace Knotwork

def isTitleKey (key : Text) : Bool := decide (Text.smalls? key = some "title")

structure Summary where
  title : Option Text
  knotCount : Nat
  nodeCount : Nat
  edgeTotal : Nat
  variableCount : Nat
  endings : List Text
  deadEnds : List Text
  unreachable : List Text
  statesPerKnot : List (Text × Nat)
  scenes : List Text
  report : Report
deriving DecidableEq

def Summary.mostStates (summary : Summary) : Nat :=
  (summary.statesPerKnot.map Prod.snd).foldl max 0

def Graph.summarize (graph : Graph) (script : Script) : Summary :=
  let nodes := graph.nodes.values
  let visited := nodes.map Node.knot
  { title := (script.metadata.entries.find? fun entry => isTitleKey entry.1).map Prod.snd
    knotCount := script.knots.length
    nodeCount := nodes.length
    edgeTotal := graph.edgeTotal
    variableCount := script.declarations.names.length
    endings := (nodes.filter Node.isEnd).map Node.id
    deadEnds := (nodes.filter Node.isDeadEnd).map Node.id
    unreachable := Text.sort (script.knotNames.filter fun name => !visited.contains name)
    statesPerKnot := (Text.sort (firstOfEach visited)).map fun name => (name, visited.count name)
    scenes := Text.sort (firstOfEach ((nodes.map Node.scene).filter fun scene => scene ≠ []))
    report := graph.report script.declarations }

end Knotwork
