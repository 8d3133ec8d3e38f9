import Knotwork.Diagram.Basic
import Knotwork.Proofs.Passages
import Knotwork.Proofs.Summary

/-! Diagrams with one box for every knot. Main statements: such a diagram is the one with a box for
every node, in which boxes of one knot are put together and arcs are kept once; and what an arc says of
the state is true of the first edge that it stands for, but perhaps not of the others. -/

namespace Knotwork

/-! Arcs. -/

namespace Arc

def ends (arc : Arc) : Text × Text × Text := (arc.source, arc.target, arc.label)

end Arc

namespace Diagram

theorem mergeArcs_cons (arc : Arc) (rest : List Arc) :
    mergeArcs (arc :: rest) = arc :: (mergeArcs rest).filter (·.ends ≠ arc.ends) := by
  rw [mergeArcs]
  congr 1
  apply List.filter_congr
  intro other _
  simp [Arc.ends, Bool.or_assoc]

theorem map_ends_mergeArcs (arcs : List Arc) :
    (mergeArcs arcs).map Arc.ends = firstOfEach (arcs.map Arc.ends) := by
  induction arcs with
  | nil => rfl
  | cons arc rest ih =>
      rw [mergeArcs_cons, List.map_cons, List.map_cons, firstOfEach, ← ih, List.filter_map]
      rfl

theorem find?_of_mem_mergeArcs {arcs : List Arc} {arc : Arc} (member : arc ∈ mergeArcs arcs) :
    arcs.find? (fun other => other.ends = arc.ends) = some arc := by
  induction arcs with
  | nil => cases member
  | cons first rest ih =>
      rw [mergeArcs_cons] at member
      rcases List.mem_cons.mp member with rfl | later
      · rw [List.find?_cons_of_pos (by simp)]
      · obtain ⟨kept, other⟩ := List.mem_filter.mp later
        have differs : first.ends ≠ arc.ends := Ne.symm (of_decide_eq_true other)
        rw [List.find?_cons_of_neg (by simpa using differs)]
        exact ih kept

end Diagram

/-! Boxes. -/

namespace Box

def absorb (earlier box : Box) : Box :=
  { earlier with
    isStart := earlier.isStart || box.isStart
    isDeadEnd := earlier.isDeadEnd || box.isDeadEnd }

theorem foldl_absorb (first : Box) (others : List Box) :
    others.foldl absorb first =
      { first with
        isStart := (first :: others).any Box.isStart
        isDeadEnd := (first :: others).any Box.isDeadEnd } := by
  induction others generalizing first with
  | nil => simp
  | cons other rest ih =>
      rw [List.foldl_cons, ih]
      simp [absorb, Bool.or_assoc]

def gather (found : Option Box) (boxes : List Box) : Option Box :=
  boxes.foldl (fun found box => some (found.elim box (absorb · box))) found

theorem gather_some (earlier : Box) (boxes : List Box) :
    gather (some earlier) boxes = some (boxes.foldl absorb earlier) := by
  induction boxes generalizing earlier with
  | nil => rfl
  | cons box rest ih => exact ih (earlier.absorb box)

end Box

namespace Diagram

theorem addBox_eq (boxes : Table Box) (box : Box) :
    addBox boxes box =
      boxes.insert box.id ((boxes.find? box.id).elim box (Box.absorb · box)) := by
  unfold addBox
  cases boxes.find? box.id with
  | none => rfl
  | some earlier => rfl

theorem find?_foldl_addBox (boxes : Table Box) (parts : List Box) (id : Text) :
    (parts.foldl addBox boxes).find? id =
      Box.gather (boxes.find? id) (parts.filter (·.id = id)) := by
  induction parts generalizing boxes with
  | nil => rfl
  | cons part rest ih =>
      rw [List.foldl_cons, ih, addBox_eq, Table.find?_insert]
      by_cases here : part.id = id
      · subst here
        rw [if_pos rfl, List.filter_cons_of_pos (by simp)]
        rfl
      · rw [if_neg (Ne.symm here), List.filter_cons_of_neg (by simpa using here)]

theorem keys_foldl_addBox (parts : List Box) :
    (parts.foldl addBox Table.empty).keys = firstOfEach (parts.map Box.id) := by
  induction parts using List.reverseRecOn with
  | nil => rfl
  | append_singleton parts last ih =>
      rw [List.foldl_append, List.foldl_cons, List.foldl_nil, addBox_eq, List.map_append,
        List.map_singleton, firstOfEach_concat, ← ih]
      have known : last.id ∈ (parts.foldl addBox Table.empty).keys ↔ last.id ∈ parts.map Box.id := by
        rw [ih, mem_firstOfEach]
      by_cases present : last.id ∈ parts.map Box.id
      · rw [if_pos present, Table.keys_insert_of_mem (known.mpr present)]
      · rw [if_neg present, Table.keys_insert_of_not_mem fun old => present (known.mp old)]

theorem entries_foldl_addBox (boxes : Table Box) {parts : List Box}
    (distinct : (boxes.keys ++ parts.map Box.id).Nodup) :
    (parts.foldl addBox boxes).entries = boxes.entries ++ parts.map fun part => (part.id, part) := by
  induction parts generalizing boxes with
  | nil => simp
  | cons part rest ih =>
      have new : part.id ∉ boxes.keys := by
        intro old
        exact (List.nodup_append.mp distinct).2.2 _ old _ (by simp) rfl
      have alone : boxes.find? part.id = none := (Table.find?_eq_none_iff _ _).mpr new
      have later : ((boxes.insert part.id part).keys ++ rest.map Box.id).Nodup := by
        rw [Table.keys_insert_of_not_mem new, ← List.append_cons]
        exact distinct
      have step := ih (boxes.insert part.id part) later
      rw [Table.entries_insert_of_not_mem new] at step
      rw [List.foldl_cons, addBox_eq, alone, List.map_cons, List.append_cons]
      exact step

theorem box_of_find? {parts : List Box} {id : Text} {box : Box}
    (found : (parts.foldl addBox Table.empty).find? id = some box) :
    box.id = id ∧
      (∃ first ∈ parts, first.id = id ∧ first.label = box.label ∧ first.scene = box.scene ∧
        first.isEnding = box.isEnding) ∧
      box.isStart = (parts.filter (·.id = id)).any Box.isStart ∧
      box.isDeadEnd = (parts.filter (·.id = id)).any Box.isDeadEnd := by
  rw [find?_foldl_addBox] at found
  cases named : parts.filter (·.id = id) with
  | nil =>
      rw [named] at found
      cases found
  | cons first others =>
      have inside : first ∈ parts.filter (·.id = id) := by simp [named]
      obtain ⟨member, same⟩ := List.mem_filter.mp inside
      have gathered : Box.gather (some first) others = some box := by
        rw [named] at found
        exact found
      rw [Box.gather_some, Box.foldl_absorb, Option.some.injEq] at gathered
      subst gathered
      have sameId : first.id = id := of_decide_eq_true same
      exact ⟨sameId, ⟨first, member, sameId, rfl, rfl, rfl⟩, rfl, rfl⟩

theorem map_id_values (parts : List Box) :
    (parts.foldl addBox Table.empty).values.map Box.id = firstOfEach (parts.map Box.id) := by
  rw [← keys_foldl_addBox, Table.values, Table.keys, List.map_map]
  apply List.map_congr_left
  rintro ⟨id, box⟩ member
  exact (box_of_find? ((Table.mem_entries_iff _ _ _).mp member)).1

end Diagram

namespace Graph

variable {graph : Graph}

def knotOf (graph : Graph) (id : Text) : Text := ((graph.nodes.find? id).map Node.knot).getD id

def ends (graph : Graph) (edge : Node × Edge) : Text × Text × Text :=
  (edge.1.knot, graph.knotOf edge.2.target, edge.2.text)

def Changes (graph : Graph) (edge : Node × Edge) : Prop :=
  ∃ target, graph.nodes.find? edge.2.target = some target ∧ ¬edge.1.state.Agree target.state

instance (graph : Graph) (edge : Node × Edge) : Decidable (graph.Changes edge) :=
  decidable_of_iff
    ((graph.nodes.find? edge.2.target).any fun target => !edge.1.state.same target.state) (by
      simp [Changes, Option.any_eq_true, Table.same_eq_false_iff])

def Draws (graph : Graph) (collapse : Bool) (edge : Node × Edge) (arc : Arc) : Prop :=
  ∃ target, graph.nodes.find? edge.2.target = some target ∧
    arc.source = edge.1.boxId collapse ∧ arc.target = target.boxId collapse ∧
    arc.label = edge.2.text ∧ arc.stitch = edge.2.stitch ∧
    (arc.changesState = true ↔ ¬edge.1.state.Agree target.state)

structure Drawn (graph : Graph) (collapse : Bool) (diagram : Diagram) (strokes : List Arc) :
    Prop where
  boxes : diagram.boxes = ((graph.nodes.values.map (Node.box collapse graph.entry)).foldl
    Diagram.addBox Table.empty).values
  arcs : diagram.arcs = if collapse then Diagram.mergeArcs strokes else strokes
  each : List.Forall₂ (graph.Draws collapse) graph.edges strokes

theorem diagram_eq (graph : Graph) (collapse : Bool) :
    graph.diagram collapse =
      (graph.edges.mapM fun edge => Diagram.arc graph collapse edge.1 edge.2) >>= fun arcs =>
        .ok { boxes := ((graph.nodes.values.map (Node.box collapse graph.entry)).foldl
                Diagram.addBox Table.empty).values
              arcs := if collapse then Diagram.mergeArcs arcs else arcs
              scenes := firstOfEach (graph.nodes.values.map Node.scene) } :=
  rfl

theorem exists_arc {edge : Node × Edge} {target : Node}
    (found : graph.nodes.find? edge.2.target = some target) (collapse : Bool) :
    ∃ arc, Diagram.arc graph collapse edge.1 edge.2 = .ok arc ∧ graph.Draws collapse edge arc := by
  rw [Diagram.arc, Table.get, found]
  refine ⟨_, rfl, target, found, rfl, rfl, rfl, rfl, ?_⟩
  rw [Bool.not_eq_true', Table.same_eq_false_iff]

theorem exists_diagram
    (closed : ∀ edge ∈ graph.edges, ∃ target, graph.nodes.find? edge.2.target = some target)
    (collapse : Bool) :
    ∃ diagram arcs, graph.diagram collapse = .ok diagram ∧ graph.Drawn collapse diagram arcs := by
  have each : ∀ edge ∈ graph.edges, ∃ arc, Diagram.arc graph collapse edge.1 edge.2 = .ok arc ∧
      graph.Draws collapse edge arc := by
    intro edge member
    obtain ⟨target, found⟩ := closed edge member
    exact exists_arc found collapse
  obtain ⟨arcs, mapped, drawn⟩ := exists_mapM_eq_ok each
  have made := graph.diagram_eq collapse
  rw [mapped] at made
  exact ⟨_, arcs, made, ⟨rfl, rfl, drawn⟩⟩

theorem Draws.ends_eq {edge : Node × Edge} {arc : Arc} (draws : graph.Draws true edge arc) :
    arc.ends = graph.ends edge := by
  obtain ⟨target, found, source, targetBox, label, _⟩ := draws
  rw [Arc.ends, ends, source, targetBox, label, knotOf, found]
  rfl

theorem Draws.changes_iff {collapse : Bool} {edge : Node × Edge} {arc : Arc}
    (draws : graph.Draws collapse edge arc) : arc.changesState = true ↔ graph.Changes edge := by
  obtain ⟨target, found, _, _, _, _, changes⟩ := draws
  rw [changes]
  constructor
  · intro differs
    exact ⟨target, found, differs⟩
  · rintro ⟨other, otherFound, differs⟩
    rw [found] at otherFound
    cases otherFound
    exact differs

theorem Charts.shared {script : Script} {entry : Text} (charts : graph.Charts script entry)
    {one other : Node} (oneMember : one ∈ graph.nodes.values)
    (otherMember : other ∈ graph.nodes.values) (same : one.knot = other.knot) :
    one.scene = other.scene ∧ one.isEnd = other.isEnd := by
  obtain ⟨key, found⟩ := mem_values.mp oneMember
  obtain ⟨otherKey, otherFound⟩ := mem_values.mp otherMember
  obtain ⟨position, reachable, stands⟩ := charts.reached key one found
  obtain ⟨reached, otherReachable, otherStands⟩ := charts.reached otherKey other otherFound
  obtain ⟨_, knot, scene, _, _, isEnd⟩ := stands.fields
  obtain ⟨_, otherKnot, otherScene, _, _, otherIsEnd⟩ := otherStands.fields
  have knots := reachable.found
  rw [← knot, same, otherKnot, otherReachable.found] at knots
  have sameKnot : reached.knot = position.knot := Option.some.inj knots
  rw [scene, isEnd, otherScene, otherIsEnd, sameKnot]
  exact ⟨rfl, rfl⟩

theorem Charts.knotOf_id {script : Script} {entry : Text} (charts : graph.Charts script entry)
    {node : Node} (member : node ∈ graph.nodes.values) : graph.knotOf node.id = node.knot := by
  obtain ⟨key, found⟩ := mem_values.mp member
  rw [knotOf, charts.keyed key node found, found]
  rfl

end Graph

/-- A diagram with one box for every node and one arc for every edge, in order. -/
structure Diagram.Unfolds (full : Diagram) (graph : Graph) : Prop where
  boxes : List.Forall₂ (fun (node : Node) (box : Box) => box.id = node.id ∧
      box.scene = node.scene ∧ box.isEnding = node.isEnd ∧
      (box.isStart = true ↔ node.id = graph.entry) ∧
      (box.isDeadEnd = true ↔ node.edges = [] ∧ node.isEnd = false)) graph.nodes.values full.boxes
  arcs : List.Forall₂ (fun (edge : Node × Edge) (arc : Arc) => arc.source = edge.1.id ∧
      arc.target = edge.2.target ∧ arc.label = edge.2.text ∧ arc.stitch = edge.2.stitch ∧
      (arc.changesState = true ↔ graph.Changes edge)) graph.edges full.arcs

/-- A diagram in which the boxes of a knot are one, in the place of the first of them, and arcs that
would then be the same are one, in the place of the first of them. -/
structure Diagram.Collapses (collapsed full : Diagram) (graph : Graph) : Prop where
  boxes : collapsed.boxes.map Box.id = firstOfEach (graph.nodes.values.map Node.knot)
  shared : ∀ box ∈ collapsed.boxes, ∀ part ∈ full.boxes, graph.knotOf part.id = box.id →
    part.scene = box.scene ∧ part.isEnding = box.isEnding
  start : ∀ box ∈ collapsed.boxes, (box.isStart = true ↔
    ∃ part ∈ full.boxes, graph.knotOf part.id = box.id ∧ part.id = graph.entry)
  deadEnd : ∀ box ∈ collapsed.boxes, (box.isDeadEnd = true ↔
    ∃ part ∈ full.boxes, graph.knotOf part.id = box.id ∧ part.isDeadEnd = true)
  arcs : collapsed.arcs.map Arc.ends = firstOfEach
    (full.arcs.map fun arc => (graph.knotOf arc.source, graph.knotOf arc.target, arc.label))

namespace Graph

variable {graph : Graph} {script : Script} {entry : Text}

theorem Charts.closed_edges (charts : graph.Charts script entry) :
    ∀ edge ∈ graph.edges, ∃ target, graph.nodes.find? edge.2.target = some target := by
  rintro ⟨node, edge⟩ member
  obtain ⟨⟨key, found⟩, leads⟩ := mem_edges.mp member
  exact charts.closed key node found edge leads

theorem Charts.full_boxes (charts : graph.Charts script entry) {full : Diagram} {arcs : List Arc}
    (drawn : graph.Drawn false full arcs) :
    full.boxes = graph.nodes.values.map (Node.box false graph.entry) := by
  -- Boxes of nodes have different names, so none of them takes in another.
  have distinct : ((Table.empty : Table Box).keys ++
      (graph.nodes.values.map (Node.box false graph.entry)).map Box.id).Nodup := by
    rw [List.map_map]
    exact charts.nodup_ids
  rw [drawn.boxes, Table.values, Diagram.entries_foldl_addBox Table.empty distinct, List.map_append,
    List.map_map]
  exact List.map_id _

theorem Charts.unfolds (charts : graph.Charts script entry) {full : Diagram} {arcs : List Arc}
    (drawn : graph.Drawn false full arcs) : full.Unfolds graph := by
  constructor
  · rw [charts.full_boxes drawn, List.forall₂_map_right_iff, List.forall₂_same]
    intro node _
    refine ⟨rfl, rfl, rfl, decide_eq_true_iff, ?_⟩
    simp [Node.box, Node.isDeadEnd]
  · rw [drawn.arcs]
    refine drawn.each.imp ?_
    intro edge arc draws
    have changes := draws.changes_iff
    obtain ⟨target, found, source, targetBox, label, stitch, _⟩ := draws
    exact ⟨source, targetBox.trans (charts.keyed _ _ found), label, stitch, changes⟩

theorem Charts.map_arcs (charts : graph.Charts script entry) {arcs : List Arc}
    (all : List.Forall₂ (graph.Draws false) graph.edges arcs) :
    arcs.map (fun arc => (graph.knotOf arc.source, graph.knotOf arc.target, arc.label)) =
      graph.edges.map graph.ends := by
  have within := (List.forall₂_and_left graph.edges arcs).mpr ⟨fun _ member => member, all⟩
  refine map_eq_of_forall₂ ?_ within
  rintro ⟨node, edge⟩ arc ⟨member, target, found, source, targetBox, label, _⟩
  have stands : node ∈ graph.nodes.values := mem_values.mpr (mem_edges.mp member).1
  rw [ends, source, targetBox, label]
  simp only [Node.boxId, Bool.false_eq_true, if_false]
  rw [charts.knotOf_id stands, charts.keyed _ _ found]

theorem exists_part_iff {kind : Box → Prop} {collapse : Bool} :
    (∃ part ∈ graph.nodes.values.map (Node.box collapse graph.entry), kind part) ↔
      ∃ node ∈ graph.nodes.values, kind (node.box collapse graph.entry) := by
  constructor
  · rintro ⟨part, member, holds⟩
    obtain ⟨node, nodeMember, rfl⟩ := List.mem_map.mp member
    exact ⟨node, nodeMember, holds⟩
  · rintro ⟨node, member, holds⟩
    exact ⟨_, List.mem_map_of_mem member, holds⟩

theorem any_part_iff {flag : Box → Bool} {name : Text} :
    ((graph.nodes.values.map (Node.box true graph.entry)).filter (·.id = name)).any flag = true ↔
      ∃ node ∈ graph.nodes.values, node.knot = name ∧ flag (node.box true graph.entry) = true := by
  rw [List.any_filter, List.any_eq_true, exists_part_iff]
  simp [Node.box, Node.boxId]

theorem Drawn.box_of_mem {collapsed : Diagram} {strokes : List Arc}
    (drawn : graph.Drawn true collapsed strokes) {box : Box} (member : box ∈ collapsed.boxes) :
    (∃ node ∈ graph.nodes.values, node.knot = box.id ∧ node.scene = box.scene ∧
      node.isEnd = box.isEnding) ∧
    (box.isStart = true ↔
      ∃ node ∈ graph.nodes.values, node.knot = box.id ∧ node.id = graph.entry) ∧
    (box.isDeadEnd = true ↔
      ∃ node ∈ graph.nodes.values, node.knot = box.id ∧ node.isDeadEnd = true) := by
  rw [drawn.boxes] at member
  obtain ⟨id, found⟩ := (Table.mem_values_iff _ _).mp member
  obtain ⟨rfl, ⟨first, firstMember, firstId, _, scene, ending⟩, start, deadEnd⟩ :=
    Diagram.box_of_find? found
  obtain ⟨node, nodeMember, rfl⟩ := List.mem_map.mp firstMember
  refine ⟨⟨node, nodeMember, firstId, scene, ending⟩, ?_, ?_⟩
  · rw [start, any_part_iff]
    simp [Node.box]
  · rw [deadEnd, any_part_iff]
    simp [Node.box]

theorem Charts.collapses (charts : graph.Charts script entry) {full collapsed : Diagram}
    {arcs merged : List Arc} (fullDrawn : graph.Drawn false full arcs)
    (drawn : graph.Drawn true collapsed merged) : collapsed.Collapses full graph := by
  have fullBoxes := charts.full_boxes fullDrawn
  have parts : ∀ name, ∀ kind : Box → Prop,
      (∃ part ∈ full.boxes, graph.knotOf part.id = name ∧ kind part) ↔
        ∃ node ∈ graph.nodes.values, node.knot = name ∧ kind (node.box false graph.entry) := by
    intro name kind
    rw [fullBoxes, exists_part_iff]
    refine exists_congr fun node => and_congr_right fun member => ?_
    have knot : graph.knotOf (node.box false graph.entry).id = node.knot := charts.knotOf_id member
    rw [knot]
  constructor
  · rw [drawn.boxes, Diagram.map_id_values, List.map_map]
    rfl
  · intro box member part partMember same
    obtain ⟨⟨first, firstMember, firstKnot, scene, ending⟩, _, _⟩ := drawn.box_of_mem member
    rw [fullBoxes] at partMember
    obtain ⟨node, nodeMember, rfl⟩ := List.mem_map.mp partMember
    have knots : node.knot = first.knot := by
      rw [← charts.knotOf_id nodeMember]
      exact same.trans firstKnot.symm
    obtain ⟨sameScene, sameEnd⟩ := charts.shared nodeMember firstMember knots
    exact ⟨sameScene.trans scene, sameEnd.trans ending⟩
  · intro box member
    obtain ⟨_, start, _⟩ := drawn.box_of_mem member
    rw [start, parts]
    rfl
  · intro box member
    obtain ⟨_, _, deadEnd⟩ := drawn.box_of_mem member
    rw [deadEnd, parts]
    rfl
  · have fullArcs : full.arcs = arcs := fullDrawn.arcs
    have mergedArcs : collapsed.arcs = Diagram.mergeArcs merged := drawn.arcs
    rw [mergedArcs, Diagram.map_ends_mergeArcs, fullArcs, charts.map_arcs fullDrawn.each,
      map_eq_of_forall₂ (fun _ _ draws => draws.ends_eq) drawn.each]

theorem Drawn.exists_first {collapsed : Diagram} {merged : List Arc}
    (drawn : graph.Drawn true collapsed merged) {arc : Arc} (member : arc ∈ collapsed.arcs) :
    ∃ first, graph.edges.find? (fun edge => graph.ends edge = arc.ends) = some first ∧
      graph.Draws true first arc := by
  have mergedArcs : collapsed.arcs = Diagram.mergeArcs merged := drawn.arcs
  rw [mergedArcs] at member
  refine exists_find?_of_forall₂ ?_ drawn.each (Diagram.find?_of_mem_mergeArcs member)
  intro edge other draws
  rw [draws.ends_eq]

end Graph

/-- A graph has a diagram with one box for every node and one arc for every edge, and one with a box
for every knot. The second is the first with the boxes of each knot put together and equal arcs drawn
once: the knots stand in order of discovery, scene and ending are those of all nodes of the knot, and
one node suffices to make a knot the start or a dead end. -/
theorem collapsed_diagram_is_quotient {script : Script} {entry : Text} {graph : Graph}
    (built : script.graph entry = .ok graph) :
    ∃ full collapsed, graph.diagram false = .ok full ∧ graph.diagram true = .ok collapsed ∧
      full.Unfolds graph ∧ collapsed.Collapses full graph := by
  have charts := Script.charts_graph built
  obtain ⟨full, arcs, made, drawn⟩ := Graph.exists_diagram charts.closed_edges false
  obtain ⟨collapsed, merged, collapsedMade, collapsedDrawn⟩ :=
    Graph.exists_diagram charts.closed_edges true
  exact ⟨full, collapsed, made, collapsedMade, charts.unfolds drawn,
    charts.collapses drawn collapsedDrawn⟩

def wellStory : Text :=
  Text.joinWith ['\n']
    ["// STATES: rope", "=== index ===", "// scene: yard", "* Take ~ rope = true", "* Down -> well",
     "=== well ===", "* {rope == true} Up -> index"]

theorem collapsed_diagram_is_quotient_well :
    ∃ script graph full collapsed, Script.read wellStory = .ok script ∧
      script.graph "index" = .ok graph ∧ graph.diagram false = .ok full ∧
      graph.diagram true = .ok collapsed ∧ full.Unfolds graph ∧ collapsed.Collapses full graph ∧
      full.boxes.map Box.isDeadEnd = [false, false, true, false] ∧ full.arcs.length = 5 ∧
      collapsed.boxes.map (fun box => (box.id, box.isStart, box.isDeadEnd)) =
        [("index".toList, true, false), ("well".toList, false, true)] ∧
      collapsed.arcs.map Arc.label = ["Take".toList, "Down".toList, "Up".toList] := by
  have computed : ((Script.read wellStory).toOption.bind fun script =>
      (script.graph "index").toOption.bind fun graph =>
        (graph.diagram false).toOption.bind fun full =>
          (graph.diagram true).toOption.map fun collapsed =>
            decide (full.boxes.map Box.isDeadEnd = [false, false, true, false] ∧
              full.arcs.length = 5 ∧
              collapsed.boxes.map (fun box => (box.id, box.isStart, box.isDeadEnd)) =
                [("index".toList, true, false), ("well".toList, false, true)] ∧
              collapsed.arcs.map Arc.label = ["Take".toList, "Down".toList, "Up".toList])) =
        some true := by
    decide +kernel
  obtain ⟨script, parsed, computed⟩ := Option.bind_eq_some_iff.mp computed
  obtain ⟨graph, built, computed⟩ := Option.bind_eq_some_iff.mp computed
  obtain ⟨full, made, computed⟩ := Option.bind_eq_some_iff.mp computed
  obtain ⟨collapsed, collapsedMade, facts⟩ := Option.map_eq_some_iff.mp computed
  have built := Except.eq_ok_of_toOption built
  have made := Except.eq_ok_of_toOption made
  have collapsedMade := Except.eq_ok_of_toOption collapsedMade
  obtain ⟨_, _, sameFull, sameCollapsed, unfolds, collapses⟩ := collapsed_diagram_is_quotient built
  cases made.symm.trans sameFull
  cases collapsedMade.symm.trans sameCollapsed
  exact ⟨script, graph, full, collapsed, Except.eq_ok_of_toOption parsed, built, made, collapsedMade,
    unfolds, collapses, of_decide_eq_true facts⟩

/-- An arc between knots says whether the first of the edges that it stands for changes the state. If it
says so, one of them does. It is right about all of them together exactly if that first one changes the
state or none does. -/
theorem collapsed_arcs_tell_of_first_edge {script : Script} {entry : Text} {graph : Graph}
    (built : script.graph entry = .ok graph) :
    ∃ collapsed, graph.diagram true = .ok collapsed ∧ ∀ arc ∈ collapsed.arcs,
      ∃ first, graph.edges.find? (fun edge => graph.ends edge = arc.ends) = some first ∧
        (arc.changesState = true ↔ graph.Changes first) ∧
        (arc.changesState = true →
          ∃ edge ∈ graph.edges, graph.ends edge = arc.ends ∧ graph.Changes edge) ∧
        ((arc.changesState = true ↔
            ∃ edge ∈ graph.edges, graph.ends edge = arc.ends ∧ graph.Changes edge) ↔
          graph.Changes first ∨
            ∀ edge ∈ graph.edges, graph.ends edge = arc.ends → ¬graph.Changes edge) := by
  have charts := Script.charts_graph built
  obtain ⟨collapsed, merged, made, drawn⟩ := Graph.exists_diagram charts.closed_edges true
  refine ⟨collapsed, made, ?_⟩
  intro arc member
  obtain ⟨first, found, draws⟩ := drawn.exists_first member
  have present := List.mem_of_find?_eq_some found
  have sameEnds : graph.ends first = arc.ends := draws.ends_eq.symm
  have sound : arc.changesState = true →
      ∃ edge ∈ graph.edges, graph.ends edge = arc.ends ∧ graph.Changes edge :=
    fun changes => ⟨first, present, sameEnds, draws.changes_iff.mp changes⟩
  refine ⟨first, found, draws.changes_iff, sound, ?_⟩
  rw [draws.changes_iff]
  constructor
  · intro right
    by_cases changes : graph.Changes first
    · exact Or.inl changes
    · refine Or.inr ?_
      intro edge edgeMember ends edgeChanges
      exact changes (right.mpr ⟨edge, edgeMember, ends, edgeChanges⟩)
  · rintro (changes | none)
    · exact iff_of_true changes ⟨first, present, sameEnds, changes⟩
    · refine iff_of_false (none first present sameEnds) ?_
      rintro ⟨edge, edgeMember, ends, edgeChanges⟩
      exact none edge edgeMember ends edgeChanges

def switchStory : Text :=
  Text.joinWith ['\n']
    ["// STATES: lamp", "=== index ===", "* On ~ lamp = true", "* Off ~ lamp = false"]

theorem exists_switch_diagram :
    ∃ script graph collapsed, Script.read switchStory = .ok script ∧
      script.graph "index" = .ok graph ∧ graph.diagram true = .ok collapsed ∧
      (∃ arc ∈ collapsed.arcs, arc.label = "On".toList ∧ arc.changesState = true) ∧
      ∃ arc ∈ collapsed.arcs, arc.label = "Off".toList ∧ arc.changesState = false ∧
        ∃ edge ∈ graph.edges, graph.ends edge = arc.ends ∧ graph.Changes edge := by
  have computed : ((Script.read switchStory).toOption.bind fun script =>
      (script.graph "index").toOption.bind fun graph =>
        (graph.diagram true).toOption.map fun collapsed =>
          decide ((∃ arc ∈ collapsed.arcs, arc.label = "On".toList ∧ arc.changesState = true) ∧
            ∃ arc ∈ collapsed.arcs, arc.label = "Off".toList ∧ arc.changesState = false ∧
              ∃ edge ∈ graph.edges, graph.ends edge = arc.ends ∧ graph.Changes edge)) =
        some true := by
    decide +kernel
  obtain ⟨script, parsed, computed⟩ := Option.bind_eq_some_iff.mp computed
  obtain ⟨graph, built, computed⟩ := Option.bind_eq_some_iff.mp computed
  obtain ⟨collapsed, made, facts⟩ := Option.map_eq_some_iff.mp computed
  exact ⟨script, graph, collapsed, Except.eq_ok_of_toOption parsed, Except.eq_ok_of_toOption built,
    Except.eq_ok_of_toOption made, of_decide_eq_true facts⟩

theorem collapsed_arcs_tell_of_first_edge_switch :
    ∃ script graph collapsed arc, Script.read switchStory = .ok script ∧
      script.graph "index" = .ok graph ∧ graph.diagram true = .ok collapsed ∧
      arc ∈ collapsed.arcs ∧ arc.label = "On".toList ∧ arc.changesState = true ∧
      ∃ edge ∈ graph.edges, graph.ends edge = arc.ends ∧ graph.Changes edge := by
  obtain ⟨script, graph, collapsed, parsed, built, made, ⟨arc, member, label, changes⟩, _⟩ :=
    exists_switch_diagram
  obtain ⟨_, same, tells⟩ := collapsed_arcs_tell_of_first_edge built
  cases made.symm.trans same
  obtain ⟨_, _, _, sound, _⟩ := tells arc member
  exact ⟨script, graph, collapsed, arc, parsed, built, made, member, label, changes, sound changes⟩

theorem collapsed_arc_hides_change_switch :
    ∃ script graph collapsed arc edge, Script.read switchStory = .ok script ∧
      script.graph "index" = .ok graph ∧ graph.diagram true = .ok collapsed ∧
      arc ∈ collapsed.arcs ∧ arc.changesState = false ∧ edge ∈ graph.edges ∧
      graph.ends edge = arc.ends ∧ graph.Changes edge := by
  obtain ⟨script, graph, collapsed, parsed, built, made, _, arc, member, _, silent, edge, present,
    ends, changes⟩ := exists_switch_diagram
  exact ⟨script, graph, collapsed, arc, edge, parsed, built, made, member, silent, present, ends,
    changes⟩

end Knotwork
