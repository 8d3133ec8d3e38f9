import Knotwork.Identity

/-!
Stories: the graph of all places and states that a reader can come to.
-/

namespace Knotwork

structure Edge where
  text : Text
  target : Text
  stitch : Option Text := none
deriving DecidableEq

structure Node where
  id : Text
  knot : Text
  scene : Text := []
  state : State := Table.empty
  content : Text := []
  edges : List Edge := []
  isEnd : Bool := false
  stitch : Option Text := none
deriving DecidableEq

def Node.isDeadEnd (node : Node) : Bool := node.edges.isEmpty && !node.isEnd

structure Graph where
  metadata : Table Text := Table.empty
  nodes : Table Node := Table.empty
  entry : Text := []
deriving DecidableEq

namespace Graph

def entryNode (graph : Graph) : Except Table.UnknownKey Node := graph.nodes.get graph.entry

def edges (graph : Graph) : List (Node × Edge) :=
  graph.nodes.values.flatMap fun node => node.edges.map (node, ·)

def edgeTotal (graph : Graph) : Nat := graph.edges.length

end Graph

end Knotwork
