import Knotwork.Artifact.Document
import Knotwork.Proofs.Json
import Knotwork.Proofs.Table
import Mathlib.Data.List.Forall2
import Mathlib.Tactic.MkIffOfInductiveProp

/-! What the document of a story tells. Main statement: two graphs have the same document, as text,
exactly if they have the same metadata and the same nodes under the same keys. Each part of a document
is taken apart on its own: what is told of an edge, of a node and of a table under its keys. -/

namespace Knotwork

@[mk_iff] structure Edge.Alike (one other : Edge) : Prop where
  text : one.text = other.text
  target : one.target = other.target
  stitch : one.stitch.getD [] = other.stitch.getD []

/-- Nodes of which a document tells the same: all but their own identity, which is the key that a node
stands under. -/
@[mk_iff] structure Node.Alike (one other : Node) : Prop where
  knot : one.knot = other.knot
  scene : one.scene = other.scene
  state : one.state.Agree other.state
  content : one.content = other.content
  edges : List.Forall₂ Edge.Alike one.edges other.edges
  isEnd : one.isEnd = other.isEnd
  stitch : one.stitch.getD [] = other.stitch.getD []

theorem Value.record_inj {members others : List (Text × Value)} :
    Value.record members = Value.record others ↔ members = others := by
  rw [Value.record, Value.record, Value.map.injEq]
  refine (List.map_injective_iff.mpr ?_).eq_iff
  rintro ⟨key, value⟩ ⟨other, twin⟩ same
  simpa using same

theorem stitchMember_eq_iff (one other : Option Text) :
    stitchMember one = stitchMember other ↔ one.getD [] = other.getD [] := by
  rcases one with _ | _ | ⟨c, rest⟩ <;> rcases other with _ | _ | ⟨d, tail⟩ <;> simp [stitchMember]

theorem State.document_eq_iff (one other : State) :
    State.document one = State.document other ↔ one.Agree other := by
  rw [State.document, State.document, Value.record_inj]
  exact Table.map_sorted_eq_iff_agree (fun _ _ same => Value.bool.inj same) one other

theorem Edge.document_eq_iff (one other : Edge) :
    one.document = other.document ↔ one.Alike other := by
  simp only [Edge.document, Value.record_inj, List.cons_append, List.nil_append, List.cons.injEq,
    Prod.mk.injEq, true_and, Value.text.injEq, stitchMember_eq_iff, Edge.alike_iff]

theorem Edge.documents_eq_iff (ones others : List Edge) :
    ones.map Edge.document = others.map Edge.document ↔ List.Forall₂ Edge.Alike ones others := by
  rw [← List.forall₂_eq_eq_eq, List.forall₂_map_left_iff, List.forall₂_map_right_iff]
  simp only [Edge.document_eq_iff]

theorem Node.document_eq_iff (one other : Node) :
    one.document = other.document ↔ one.Alike other := by
  simp only [Node.document, Value.record_inj, List.cons_append, List.nil_append, List.cons.injEq,
    Prod.mk.injEq, true_and, Value.text.injEq, Value.list.injEq, Value.bool.injEq,
    State.document_eq_iff, Edge.documents_eq_iff, stitchMember_eq_iff, Node.alike_iff]

namespace Value

theorem isDocument_stitchMember (stitch : Option Text) :
    ∀ member ∈ stitchMember stitch, IsDocument member.2 := by
  intro member present
  unfold stitchMember at present
  split at present
  · rw [List.mem_singleton.mp present]
    exact .text _
  · cases present

theorem isDocument_edge (edge : Edge) : IsDocument edge.document := by
  refine .record fun member present => ?_
  rcases List.mem_append.mp present with named | stitch
  · simp only [List.mem_cons, List.not_mem_nil, or_false] at named
    rcases named with rfl | rfl
    · exact .text _
    · exact .text _
  · exact isDocument_stitchMember edge.stitch member stitch

theorem isDocument_sorted {α : Type} (table : Table α) {image : α → Value}
    (documents : ∀ value, IsDocument (image value)) :
    IsDocument (.record (table.sorted.map fun entry => (entry.1, image entry.2))) := by
  refine .record fun member present => ?_
  obtain ⟨entry, _, rfl⟩ := List.mem_map.mp present
  exact documents entry.2

theorem isDocument_node (node : Node) : IsDocument node.document := by
  refine .record fun member present => ?_
  rcases List.mem_append.mp present with named | stitch
  · simp only [List.mem_cons, List.not_mem_nil, or_false] at named
    rcases named with rfl | rfl | rfl | rfl | rfl | rfl
    · exact .text _
    · exact .text _
    · exact isDocument_sorted node.state .bool
    · exact .text _
    · refine .list fun item present => ?_
      obtain ⟨edge, _, rfl⟩ := List.mem_map.mp present
      exact isDocument_edge edge
    · exact .bool _
  · exact isDocument_stitchMember node.stitch member stitch

theorem isDocument_graph (graph : Graph) : IsDocument graph.document := by
  have metadata := isDocument_sorted graph.metadata .text
  have nodes := isDocument_sorted graph.nodes isDocument_node
  refine .record ?_
  simp only [List.forall_mem_cons, List.not_mem_nil, false_implies, implies_true, and_true]
  refine ⟨metadata, .record ?_⟩
  simpa using nodes

end Value

namespace Graph

theorem document_eq_iff (one other : Graph) :
    one.document = other.document ↔
      one.metadata.Agree other.metadata ∧
        ∀ key, (one.nodes.find? key).map Node.document = (other.nodes.find? key).map Node.document := by
  simp only [document, Value.record_inj, List.cons.injEq, Prod.mk.injEq, true_and, and_true]
  rw [Table.map_sorted_eq_iff_agree (fun _ _ same => Value.text.inj same), Table.map_sorted_eq_iff]

theorem map_document_eq_iff (one other : Option Node) :
    one.map Node.document = other.map Node.document ↔
      (one.isSome = true ↔ other.isSome = true) ∧
        ∀ node twin, one = some node → other = some twin → node.Alike twin := by
  cases one <;> cases other <;> simp [Node.document_eq_iff]

/-- The document of a graph is canonical and tells all of it: two graphs have one text exactly if
they have the same metadata and keys, with nodes that are alike under each key. -/
theorem renderDocument_eq_iff (one other : Graph) :
    one.renderDocument = other.renderDocument ↔
      one.metadata.Agree other.metadata ∧
      (∀ key, key ∈ one.nodes.keys ↔ key ∈ other.nodes.keys) ∧
      ∀ key node twin, one.nodes.find? key = some node → other.nodes.find? key = some twin →
        node.Alike twin := by
  rw [renderDocument, renderDocument,
    (Value.isDocument_graph one).toJson_inj (Value.isDocument_graph other), document_eq_iff]
  simp only [map_document_eq_iff, forall_and, Table.mem_keys_iff]

end Graph

end Knotwork
