import Knotwork.Proofs.Exploration
import Knotwork.Proofs.Report

/-! The order of discovery. Main statement: the nodes of a graph stand in the order in which its edges
first lead to them, and every node has the stitch of the edge that led to it first. What carries it is
one equation between the nodes that a search has registered and the edges it has drawn so far. -/

namespace Knotwork

section FirstByKey

variable {α : Type}

def firstByKey : List (Text × α) → List (Text × α)
  | [] => []
  | pair :: rest => pair :: (firstByKey rest).filter (·.1 ≠ pair.1)

theorem map_fst_firstByKey (pairs : List (Text × α)) :
    (firstByKey pairs).map Prod.fst = firstOfEach (pairs.map Prod.fst) := by
  induction pairs with
  | nil => rfl
  | cons pair rest ih =>
      rw [firstByKey, List.map_cons, List.map_cons, firstOfEach, ← ih, List.filter_map]
      rfl

theorem lookup_filter_ne (pairs : List (Text × α)) {key other : Text} (differs : other ≠ key) :
    (pairs.filter (·.1 ≠ key)).lookup other = pairs.lookup other := by
  induction pairs with
  | nil => rfl
  | cons pair rest ih =>
      obtain ⟨first, value⟩ := pair
      by_cases dropped : first = key
      · subst dropped
        rw [List.filter_cons_of_neg (by simp), ih, Table.lookup_cons_eq, if_neg differs]
      · rw [List.filter_cons_of_pos (by simpa using dropped), Table.lookup_cons_eq,
          Table.lookup_cons_eq, ih]

theorem lookup_firstByKey (pairs : List (Text × α)) (key : Text) :
    (firstByKey pairs).lookup key = pairs.lookup key := by
  induction pairs with
  | nil => rfl
  | cons pair rest ih =>
      obtain ⟨first, value⟩ := pair
      rw [firstByKey, Table.lookup_cons_eq, Table.lookup_cons_eq]
      split
      · rfl
      · rename_i differs
        rw [lookup_filter_ne _ differs, ih]

theorem firstByKey_append (first second : List (Text × α)) :
    firstByKey (first ++ second) =
      firstByKey first ++ (firstByKey second).filter (·.1 ∉ first.map Prod.fst) := by
  induction first with
  | nil => simp [firstByKey]
  | cons pair rest ih =>
      have kept : ∀ other ∈ firstByKey second,
          (decide (other.1 ≠ pair.1) && decide (other.1 ∉ rest.map Prod.fst)) =
            decide (other.1 ∉ (pair :: rest).map Prod.fst) := by
        intro other _
        rw [← Bool.decide_and, List.map_cons, decide_eq_decide, List.mem_cons, not_or]
      rw [List.cons_append, firstByKey, firstByKey, ih, List.filter_append, List.filter_filter,
        List.filter_congr kept, List.cons_append]

end FirstByKey

def Node.arrival (node : Node) : Text × Option Text := (node.id, node.stitch)

def Edge.arrival (edge : Edge) : Text × Option Text := (edge.target, edge.stitch)

namespace Script

theorem map_arrival_discover (known : List Text) (nodes : List Node) :
    (discover known nodes).map Node.arrival =
      (firstByKey (nodes.map Node.arrival)).filter (·.1 ∉ known) := by
  induction nodes generalizing known with
  | nil => rfl
  | cons node rest ih =>
      rw [discover, List.map_cons, firstByKey]
      by_cases old : node.id ∈ known
      · have kept : ∀ pair ∈ firstByKey (rest.map Node.arrival),
            (decide (pair.1 ∉ known) && decide (pair.1 ≠ node.id)) = decide (pair.1 ∉ known) := by
          intro pair _
          rw [← Bool.decide_and, decide_eq_decide, and_iff_left_iff_imp]
          exact fun unknown same => unknown (same ▸ old)
        rw [if_pos (List.contains_iff_mem.mpr old), ih, List.filter_cons_of_neg,
          List.filter_filter]
        · exact (List.filter_congr kept).symm
        · exact fun unknown => of_decide_eq_true unknown old
      · have kept : ∀ pair ∈ firstByKey (rest.map Node.arrival),
            decide (pair.1 ∉ node.id :: known) =
              (decide (pair.1 ∉ known) && decide (pair.1 ≠ node.id)) := by
          intro pair _
          rw [← Bool.decide_and, decide_eq_decide, List.mem_cons, not_or, and_comm]
        rw [if_neg fun known => old (List.contains_iff_mem.mp known), List.map_cons, ih,
          List.filter_cons_of_pos, List.filter_filter]
        · exact congrArg _ (List.filter_congr kept)
        · exact decide_eq_true old

theorem arrival_eq_of_taken {script : Script} {node target : Node} {edge : Edge}
    (taken : .taken edge target ∈ script.moves node) : edge.arrival = target.arrival := by
  unfold moves at taken
  split at taken
  · cases taken
  · rename_i knot _
    obtain ⟨choice, _, move⟩ := List.mem_filterMap.mp taken
    have outcome := script.outcome_move? ⟨knot, node.state⟩ choice
    rw [move] at outcome
    cases outcome with
    | taken _ _ entered =>
        obtain ⟨_, _, rfl⟩ := Knot.enter_eq_ok.mp entered
        rfl

theorem map_arrival_edges (moves : List Move)
    (fits : ∀ edge target, .taken edge target ∈ moves → edge.arrival = target.arrival) :
    (moves.filterMap Move.edge?).map Edge.arrival =
      (moves.filterMap Move.node?).map Node.arrival := by
  induction moves with
  | nil => rfl
  | cons move rest ih =>
      have later := ih fun edge target member => fits edge target (List.mem_cons_of_mem _ member)
      cases move with
      | taken edge target =>
          simp only [List.filterMap_cons, Move.edge?, Move.node?, List.map_cons]
          rw [fits edge target (by simp), later]
      | dropped _ => exact later
      | failed _ => exact later

end Script

namespace Search

def drawn (search : Search) : List Edge := search.visited.flatMap Node.edges

/-- The nodes of a search stand in the order in which an edge first led to them, with the stitch of
that edge, after the root, to which none had to lead. Whatever node has been visited, one before it
leads to it. -/
structure InOrder (root : Node) (search : Search) : Prop where
  arrivals : search.registered.map Node.arrival =
    firstByKey (root.arrival :: search.drawn.map Edge.arrival)
  led : ∀ before node after, search.visited = before ++ node :: after → node.id ≠ root.id →
    ∃ source ∈ before, ∃ edge ∈ source.edges, edge.target = node.id

namespace InOrder

variable {script : Script} {root : Node} {search next : Search}

theorem initial (root : Node) : InOrder root ⟨[], [root]⟩ := by
  refine ⟨rfl, ?_⟩
  intro before node after split
  simp at split

theorem target_of_mem (inOrder : search.InOrder root) {node : Node}
    (member : node ∈ search.registered) (differs : node.id ≠ root.id) :
    ∃ source ∈ search.visited, ∃ edge ∈ source.edges, edge.target = node.id := by
  have ids := congrArg (List.map Prod.fst) inOrder.arrivals
  rw [map_fst_firstByKey, List.map_map] at ids
  have found : node.id ∈ search.registered.map (Prod.fst ∘ Node.arrival) :=
    List.mem_map.mpr ⟨node, member, rfl⟩
  rw [ids, mem_firstOfEach, List.map_cons, List.map_map] at found
  rcases List.mem_cons.mp found with same | led
  · exact absurd same differs
  · obtain ⟨edge, drawn, same⟩ := List.mem_map.mp led
    obtain ⟨source, visited, leads⟩ := List.mem_flatMap.mp drawn
    exact ⟨source, visited, edge, leads, same⟩

theorem turn (inOrder : search.InOrder root) (turn : search.Turn script next) :
    next.InOrder root := by
  cases turn with
  | @follow visited node waiting _ =>
      have old := inOrder.arrivals
      constructor
      · have registered :
            (⟨visited ++ [script.followed node],
              waiting ++ script.found visited node waiting⟩ : Search).registered.map Node.arrival =
            (visited ++ node :: waiting).map Node.arrival ++
              (script.found visited node waiting).map Node.arrival := by
          simp [Search.registered, Script.followed, Node.arrival]
        have known : (visited ++ node :: waiting).map Node.id =
            firstOfEach ((root.arrival :: (drawn ⟨visited, node :: waiting⟩).map Edge.arrival).map
              Prod.fst) := by
          rw [← map_fst_firstByKey, ← old, List.map_map]
          rfl
        have drawn : (drawn ⟨visited ++ [script.followed node],
              waiting ++ script.found visited node waiting⟩).map Edge.arrival =
            (drawn ⟨visited, node :: waiting⟩).map Edge.arrival ++
              ((script.moves node).filterMap Move.node?).map Node.arrival := by
          rw [← Script.map_arrival_edges _ fun _ _ => Script.arrival_eq_of_taken]
          simp [Search.drawn, Script.followed]
        rw [registered, drawn, ← List.cons_append, firstByKey_append, ← old, Script.found,
          Script.map_arrival_discover, known]
        simp only [mem_firstOfEach]
        rfl
      · intro before other after split differs
        rcases List.eq_nil_or_concat after with rfl | ⟨rest, last, rfl⟩
        · obtain ⟨rfl, same⟩ := List.append_inj' split rfl
          cases same
          have waits : node ∈ (⟨visited, node :: waiting⟩ : Search).registered := by
            simp [Search.registered]
          have led := inOrder.target_of_mem waits differs
          exact led
        · rw [List.concat_eq_append, ← List.cons_append, ← List.append_assoc] at split
          exact inOrder.led before other rest (List.append_inj' split rfl).1 differs

theorem of_turns (turns : Relation.ReflTransGen (Turn script) ⟨[], [root]⟩ search) :
    search.InOrder root := by
  induction turns with
  | refl => exact initial root
  | tail _ turn ih => exact ih.turn turn

end InOrder

end Search

namespace Graph

theorem map_arrival_edges (graph : Graph) :
    graph.edges.map (fun edge => edge.2.arrival) =
      (graph.nodes.values.flatMap Node.edges).map Edge.arrival := by
  simp only [edges, List.map_flatMap, List.map_map]
  rfl

theorem lookup_map_arrival (edges : List (Node × Edge)) (key : Text) :
    (edges.map fun edge => edge.2.arrival).lookup key =
      (edges.find? fun edge => edge.2.target = key).map fun edge => edge.2.stitch := by
  induction edges with
  | nil => rfl
  | cons edge rest ih =>
      rw [List.map_cons, Edge.arrival, Table.lookup_cons_eq]
      by_cases leads : key = edge.2.target
      · rw [if_pos leads, List.find?_cons_of_pos]
        · rfl
        · exact decide_eq_true leads.symm
      · rw [if_neg leads, ih, List.find?_cons_of_neg]
        exact fun same => leads (of_decide_eq_true same).symm

structure InOrder (graph : Graph) : Prop where
  keyed : graph.nodes.entries = graph.nodes.values.map fun node => (node.id, node)
  searched : ∃ root : Node, root.arrival = (graph.entry, none) ∧
    Search.InOrder root ⟨graph.nodes.values, []⟩

namespace InOrder

variable {graph : Graph}

theorem arrivals (inOrder : graph.InOrder) :
    graph.nodes.values.map Node.arrival =
      firstByKey ((graph.entry, none) :: graph.edges.map fun edge => edge.2.arrival) := by
  obtain ⟨root, same, searched⟩ := inOrder.searched
  have arrivals := searched.arrivals
  rw [Search.registered, List.append_nil, same] at arrivals
  rw [arrivals, graph.map_arrival_edges]
  rfl

theorem keys_eq (inOrder : graph.InOrder) :
    graph.nodes.keys = firstOfEach (graph.entry :: graph.edges.map fun edge => edge.2.target) := by
  have ids := congrArg (List.map Prod.fst) inOrder.arrivals
  rw [map_fst_firstByKey, List.map_cons, List.map_map, List.map_map] at ids
  rw [Table.keys, inOrder.keyed, List.map_map]
  exact ids

theorem stitch_eq (inOrder : graph.InOrder) (key : Text) :
    (graph.nodes.find? key).map Node.stitch =
      if key = graph.entry then some none
      else (graph.edges.find? fun edge => edge.2.target = key).map fun edge => edge.2.stitch := by
  have entries : (graph.nodes.mapValues Node.stitch).entries =
      graph.nodes.values.map Node.arrival := by
    calc (graph.nodes.mapValues Node.stitch).entries
        = graph.nodes.entries.map (fun entry => (entry.1, entry.2.stitch)) := rfl
      _ = graph.nodes.values.map Node.arrival := by
        rw [inOrder.keyed, List.map_map]
        rfl
  rw [← Table.find?_mapValues, Table.find?, entries, inOrder.arrivals, lookup_firstByKey,
    Table.lookup_cons_eq, lookup_map_arrival]

end InOrder

end Graph

theorem Script.inOrder_graph {script : Script} {entry : Text} {graph : Graph}
    (built : script.graph entry = .ok graph) : graph.InOrder := by
  obtain ⟨finished, rfl⟩ := graph_eq_ok built
  have searching := searching_explore finished
  have entries := (Frontier.of_searching searching).entries_eq
  have values : (Table.ofPairs ((script.explore entry).visited.map fun node =>
      (node.id, node))).values = (script.explore entry).visited := by
    rw [Table.values, entries, List.map_map]
    exact List.map_id _
  obtain ⟨knot, root, found, entered, turns⟩ := searching
  refine ⟨?_, root, ?_, ?_⟩
  · rw [entries, values]
  · obtain ⟨_, _, rfl⟩ := Knot.enter_eq_ok.mp entered
    rw [Node.arrival, (knot?_eq_some found).2]
  · rw [values]
    exact Search.InOrder.of_turns turns

/-- The nodes of a graph stand in the order of discovery: first the entry, which has no stitch, and
then every node where an edge first leads to it, with the stitch of that edge. So every node but the
entry is led to from one that stands before it, and no edge leads elsewhere. -/
theorem nodes_stand_as_edges_lead {script : Script} {entry : Text} {graph : Graph}
    (built : script.graph entry = .ok graph) :
    graph.nodes.keys = firstOfEach (graph.entry :: graph.edges.map fun edge => edge.2.target) ∧
    (∃ root, graph.nodes.find? graph.entry = some root ∧ root.stitch = none) ∧
    (∀ key node, graph.nodes.find? key = some node → key ≠ graph.entry →
      ∃ edge, graph.edges.find? (fun edge => edge.2.target = key) = some edge ∧
        node.stitch = edge.2.stitch) ∧
    (∀ before node after, graph.nodes.values = before ++ node :: after → node.id ≠ graph.entry →
      ∃ source ∈ before, ∃ edge ∈ source.edges, edge.target = node.id) ∧
    ∀ edge ∈ graph.edges, ∃ target, graph.nodes.find? edge.2.target = some target := by
  have inOrder := Script.inOrder_graph built
  have charts := Script.charts_graph built
  refine ⟨inOrder.keys_eq, ?_, ?_, ?_, ?_⟩
  · obtain ⟨start, root, _, found, _⟩ := charts.rooted
    have stitch := inOrder.stitch_eq graph.entry
    rw [found, if_pos rfl] at stitch
    exact ⟨root, found, Option.some.inj stitch⟩
  · intro key node found differs
    have stitch := inOrder.stitch_eq key
    rw [found, if_neg differs] at stitch
    obtain ⟨edge, first, same⟩ := Option.map_eq_some_iff.mp stitch.symm
    exact ⟨edge, first, same.symm⟩
  · intro before node after split differs
    obtain ⟨root, same, searched⟩ := inOrder.searched
    have entryId : root.id = graph.entry := congrArg Prod.fst same
    exact searched.led before node after split (entryId ▸ differs)
  · rintro ⟨source, edge⟩ member
    obtain ⟨⟨key, found⟩, leads⟩ := Graph.mem_edges.mp member
    exact charts.closed key source found edge leads

def atticScript : Script where
  knots :=
    [{ name := "attic"
       choices :=
         [{ text := "Both", changes := [⟨"lamp", true⟩, ⟨"rope", true⟩], stitch := some ".both" },
          { text := "One", changes := [⟨"lamp=true,rope", true⟩], stitch := some ".one" },
          { text := "Leave", target := some "yard" }] },
     { name := "yard", isEnd := true }]

theorem nodes_stand_as_edges_lead_attic :
    ∃ graph, atticScript.graph "attic" = .ok graph ∧
      graph.nodes.values.map Node.stitch =
        [none, some ".both".toList, none, some ".one".toList, none, none] ∧
      graph.nodes.keys = firstOfEach (graph.entry :: graph.edges.map fun edge => edge.2.target) ∧
      (∃ root, graph.nodes.find? graph.entry = some root ∧ root.stitch = none) ∧
      (∀ key node, graph.nodes.find? key = some node → key ≠ graph.entry →
        ∃ edge, graph.edges.find? (fun edge => edge.2.target = key) = some edge ∧
          node.stitch = edge.2.stitch) ∧
      (∀ before node after, graph.nodes.values = before ++ node :: after →
        node.id ≠ graph.entry →
        ∃ source ∈ before, ∃ edge ∈ source.edges, edge.target = node.id) ∧
      ∀ edge ∈ graph.edges, ∃ target, graph.nodes.find? edge.2.target = some target := by
  have computed : ((atticScript.graph "attic").toOption.map fun graph =>
      graph.nodes.values.map Node.stitch) =
        some [none, some ".both".toList, none, some ".one".toList, none, none] := by
    decide +kernel
  cases built : atticScript.graph "attic" with
  | error error =>
      rw [built] at computed
      cases computed
  | ok graph =>
      rw [built] at computed
      exact ⟨graph, rfl, Option.some.inj computed, nodes_stand_as_edges_lead built⟩

end Knotwork
