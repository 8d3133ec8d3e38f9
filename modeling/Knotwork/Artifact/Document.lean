import Knotwork.Story.Basic
import Knotwork.Value.Json

/-!
The document of a story: its metadata and nodes as JSON. Metadata, nodes and variables stand in
dictionary order, so equal stories have equal documents, whatever order they were found in.
-/

namespace Knotwork

def stitchMember (stitch : Option Text) : List (Text × Value) :=
  match stitch with
  | some (c :: rest) => [("stitch", .text (c :: rest))]
  | _ => []

def Edge.document (edge : Edge) : Value :=
  let members : List (Text × Value) :=
    [("text", .text edge.text), ("targetNodeId", .text edge.target)]
  .record (members ++ stitchMember edge.stitch)

def State.document (state : State) : Value :=
  .record (state.sorted.map fun (name, value) => (name, .bool value))

def Node.document (node : Node) : Value :=
  let members : List (Text × Value) :=
    [("knotName", .text node.knot), ("scene", .text node.scene),
     ("state", State.document node.state), ("content", .text node.content),
     ("edges", .list (node.edges.map Edge.document)), ("isEnd", .bool node.isEnd)]
  .record (members ++ stitchMember node.stitch)

namespace Graph

def document (graph : Graph) : Value :=
  .record
    [("metadata", .record (graph.metadata.sorted.map fun (key, value) => (key, .text value))),
     ("graph", .record
       [("nodes", .record (graph.nodes.sorted.map fun (key, node) => (key, node.document)))])]

def renderDocument (graph : Graph) : Text := graph.document.toJson

end Graph

end Knotwork
