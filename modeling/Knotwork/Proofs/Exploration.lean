import Knotwork.Proofs.Moves
import Mathlib.Data.Fintype.BigOperators

/-! The exploration of a script visits one node for every position that a reader can come to. Main
statements: what the two lists of a search have in common with the rules of play (`Frontier`) holds
from the start and is kept by every turn; and an exploration is a search that went on until no node
was left waiting or a choice failed. -/

namespace Knotwork

theorem eq_of_stopped {α : Type} {step : α → α → Prop} (determined : Relator.RightUnique step)
    {start one other : α} (steps : Relation.ReflTransGen step start one)
    (otherSteps : Relation.ReflTransGen step start other) (stopped : ∀ next, ¬step one next)
    (otherStopped : ∀ next, ¬step other next) : one = other := by
  rcases steps.total_of_right_unique determined otherSteps with onward | onward
  · rcases onward.cases_head with same | ⟨next, turn, _⟩
    · exact same
    · exact absurd turn (stopped next)
  · rcases onward.cases_head with same | ⟨next, turn, _⟩
    · exact same.symm
    · exact absurd turn (otherStopped next)

namespace Script

theorem mem_of_mem_discover {known : List Text} {nodes : List Node} {node : Node}
    (member : node ∈ discover known nodes) : node ∈ nodes := by
  induction nodes generalizing known with
  | nil => simp [discover] at member
  | cons first rest ih =>
      simp only [discover] at member
      split at member
      · exact List.mem_cons_of_mem _ (ih member)
      · rcases List.mem_cons.mp member with rfl | later
        · simp
        · exact List.mem_cons_of_mem _ (ih later)

theorem nodup_known_discover (known : List Text) (nodes : List Node) (distinct : known.Nodup) :
    (known ++ (discover known nodes).map Node.id).Nodup := by
  induction nodes generalizing known with
  | nil => simpa [discover] using distinct
  | cons first rest ih =>
      simp only [discover]
      split
      · exact ih known distinct
      · rename_i new
        have fresh : first.id ∉ known := by simpa using new
        have step := ih (first.id :: known) (List.nodup_cons.mpr ⟨fresh, distinct⟩)
        rw [List.map_cons]
        exact List.perm_middle.nodup_iff.mpr step

theorem known_or_discovered (known : List Text) {nodes : List Node} {node : Node}
    (member : node ∈ nodes) : node.id ∈ known ++ (discover known nodes).map Node.id := by
  induction nodes generalizing known with
  | nil => simp at member
  | cons first rest ih =>
      simp only [discover]
      split
      · rename_i old
        rcases List.mem_cons.mp member with rfl | later
        · exact List.mem_append_left _ (by simpa using old)
        · exact ih known later
      · rcases List.mem_cons.mp member with rfl | later
        · simp
        · have step := ih (first.id :: known) later
          rw [List.map_cons]
          exact List.perm_middle.mem_iff.mpr step

def followed (script : Script) (node : Node) : Node :=
  { node with edges := (script.moves node).filterMap Move.edge? }

def found (script : Script) (visited : List Node) (node : Node) (waiting : List Node) : List Node :=
  discover ((visited ++ node :: waiting).map Node.id) ((script.moves node).filterMap Move.node?)

end Script

structure Search where
  visited : List Node
  waiting : List Node

namespace Search

def registered (search : Search) : List Node := search.visited ++ search.waiting

inductive Turn (script : Script) : Search → Search → Prop
  | follow {visited node waiting} : (script.moves node).findSome? Move.error? = none →
      Turn script ⟨visited, node :: waiting⟩
        ⟨visited ++ [script.followed node], waiting ++ script.found visited node waiting⟩

inductive Ends (script : Script) : Search → Exploration → Prop
  | done {visited} : Ends script ⟨visited, []⟩ { visited }
  | failed {visited node waiting error} : (script.moves node).findSome? Move.error? = some error →
      Ends script ⟨visited, node :: waiting⟩ { visited := visited ++ [node], error? := some error }

end Search

namespace Script

def Searching (script : Script) (entry : Text) (search : Search) : Prop :=
  ∃ knot root, script.knot? entry = some knot ∧
    knot.enter (State.initial script.declarations) = .ok root ∧
    Relation.ReflTransGen (Search.Turn script) ⟨[], [root]⟩ search

theorem visit_of_clear (script : Script) (bound : Nat) (visited : List Node) (node : Node)
    (waiting : List Node) (clear : (script.moves node).findSome? Move.error? = none) :
    script.visit (bound + 1) visited (node :: waiting) =
      script.visit bound (visited ++ [script.followed node])
        (waiting ++ script.found visited node waiting) := by
  simp only [visit, clear, found, followed]
  simp

theorem visit_turns (script : Script) (bound : Nat) (visited waiting : List Node) :
    ∃ last, Relation.ReflTransGen (Search.Turn script) ⟨visited, waiting⟩ last ∧
      (last.Ends script (script.visit bound visited waiting) ∨
        script.visit bound visited waiting = { visited := last.visited } ∧
          last.visited.length = visited.length + bound) := by
  induction bound generalizing visited waiting with
  | zero => exact ⟨⟨visited, waiting⟩, .refl, Or.inr ⟨rfl, rfl⟩⟩
  | succ bound ih =>
      cases waiting with
      | nil => exact ⟨⟨visited, []⟩, .refl, Or.inl .done⟩
      | cons node waiting =>
          cases failing : (script.moves node).findSome? Move.error? with
          | some error =>
              refine ⟨⟨visited, node :: waiting⟩, .refl, Or.inl ?_⟩
              simp only [visit, failing]
              exact .failed failing
          | none =>
              rw [visit_of_clear script bound visited node waiting failing]
              obtain ⟨last, turns, ended⟩ := ih (visited ++ [script.followed node])
                (waiting ++ script.found visited node waiting)
              rw [List.length_append, List.length_singleton, Nat.add_right_comm] at ended
              exact ⟨last, .head (.follow failing) turns, ended⟩

end Script

/-- What holds of the visited and the waiting nodes at every moment of an exploration. Identities are
distinct, every node stands for a reachable position, and visited nodes have all their edges, which
lead to nodes of either list. -/
structure Frontier (script : Script) (entry : Text) (visited waiting : List Node) : Prop where
  distinct : ((visited ++ waiting).map Node.id).Nodup
  reached : ∀ node ∈ visited ++ waiting,
    ∃ position, script.Reachable entry position ∧ node.StandsFor position
  rooted : ∃ node ∈ visited ++ waiting,
    ∃ start, script.start? entry = some start ∧ node.StandsFor start
  clear : ∀ node ∈ visited, (script.moves node).findSome? Move.error? = none
  edges : ∀ node ∈ visited, node.edges = (script.moves node).filterMap Move.edge?
  closed : ∀ node ∈ visited, ∀ edge ∈ node.edges, edge.target ∈ (visited ++ waiting).map Node.id

namespace Frontier

variable {script : Script} {entry : Text}

theorem initial {start : Position} (begins : script.start? entry = some start) {root : Node}
    (entered : start.knot.enter start.state = .ok root) : Frontier script entry [] [root] := by
  have stands := Node.standsFor_of_enter entered
  constructor
  · simp
  · intro node member
    rw [List.mem_singleton.mp member]
    exact ⟨start, .start begins, stands⟩
  · exact ⟨root, by simp, start, begins, stands⟩
  · simp
  · simp
  · simp

theorem ids_step (visited : List Node) (node : Node) (waiting : List Node) :
    (visited ++ [script.followed node] ++ (waiting ++ script.found visited node waiting)).map Node.id =
      (visited ++ node :: waiting).map Node.id ++
        (script.found visited node waiting).map Node.id := by
  simp [Script.followed]

theorem mem_step {visited waiting : List Node} {node other : Node}
    (member : other ∈ visited ++ [script.followed node] ++
      (waiting ++ script.found visited node waiting)) :
    other ∈ visited ++ node :: waiting ∨ other = script.followed node ∨
      ∃ edge, .taken edge other ∈ script.moves node := by
  simp only [List.mem_append, List.mem_cons] at member ⊢
  rcases member with (old | same | none) | (waits | new)
  · exact Or.inl (Or.inl old)
  · exact Or.inr (Or.inl same)
  · cases none
  · exact Or.inl (Or.inr (Or.inr waits))
  · obtain ⟨move, moveMember, isNode⟩ := List.mem_filterMap.mp (Script.mem_of_mem_discover new)
    obtain ⟨edge, rfl⟩ := Move.node?_eq_some.mp isNode
    exact Or.inr (Or.inr ⟨edge, moveMember⟩)

theorem step {visited : List Node} {node : Node} {waiting : List Node}
    (frontier : Frontier script entry visited (node :: waiting))
    (clear : (script.moves node).findSome? Move.error? = none) :
    Frontier script entry (visited ++ [script.followed node])
      (waiting ++ script.found visited node waiting) := by
  have here : node ∈ visited ++ node :: waiting := by simp
  obtain ⟨position, reachable, stands⟩ := frontier.reached node here
  have known {id : Text} (member : id ∈ (visited ++ node :: waiting).map Node.id) :
      id ∈ (visited ++ [script.followed node] ++
        (waiting ++ script.found visited node waiting)).map Node.id := by
    rw [ids_step]
    exact List.mem_append_left _ member
  constructor
  · rw [ids_step]
    exact Script.nodup_known_discover _ _ frontier.distinct
  · intro other member
    rcases mem_step member with old | rfl | ⟨edge, taken⟩
    · exact frontier.reached other old
    · exact ⟨position, reachable, stands⟩
    · rw [Script.moves_eq reachable stands] at taken
      obtain ⟨choice, offered, next, followed, arrives, _⟩ := Script.taken_of_mem_moves taken
      exact ⟨next, reachable.follow offered followed, arrives⟩
  · obtain ⟨root, member, start, begins, rootStands⟩ := frontier.rooted
    simp only [List.mem_append, List.mem_cons] at member
    rcases member with old | rfl | waits
    · exact ⟨root, by simp [old], start, begins, rootStands⟩
    · exact ⟨script.followed root, by simp, start, begins, rootStands⟩
    · exact ⟨root, by simp [waits], start, begins, rootStands⟩
  · rw [List.forall_mem_append, List.forall_mem_singleton]
    exact ⟨frontier.clear, clear⟩
  · rw [List.forall_mem_append, List.forall_mem_singleton]
    exact ⟨frontier.edges, rfl⟩
  · rw [List.forall_mem_append, List.forall_mem_singleton]
    refine ⟨fun other old edge leads => known (frontier.closed other old edge leads), ?_⟩
    · intro edge leads
      obtain ⟨move, taken, isEdge⟩ := List.mem_filterMap.mp leads
      obtain ⟨target, rfl⟩ := Move.edge?_eq_some.mp isEdge
      have targetMember : target ∈ (script.moves node).filterMap Move.node? :=
        List.mem_filterMap.mpr ⟨_, taken, rfl⟩
      rw [Script.moves_eq reachable stands] at taken
      obtain ⟨_, _, _, _, _, _, same⟩ := Script.taken_of_mem_moves taken
      rw [ids_step, same]
      exact Script.known_or_discovered _ targetMember

theorem of_searching {search : Search} (searching : script.Searching entry search) :
    Frontier script entry search.visited search.waiting := by
  obtain ⟨knot, root, found, entered, turns⟩ := searching
  induction turns with
  | refl =>
      have begins : script.start? entry = some ⟨knot, State.initial script.declarations⟩ :=
        Script.start?_eq_some.mpr ⟨found, rfl⟩
      exact initial begins entered
  | tail _ turn ih =>
      cases turn with
      | follow clear => exact ih.step clear

end Frontier

namespace Script

section Capacity

variable (script : Script)

def undeclared : List Text :=
  (firstOfEach script.assigned).filter fun name => !script.declarations.names.contains name

theorem nodup_undeclared : script.undeclared.Nodup :=
  (nodup_firstOfEach script.assigned).filter _

theorem capacity_eq :
    script.capacity =
      script.knots.length * 2 ^ script.declarations.names.length * 3 ^ script.undeclared.length :=
  rfl

def signature (node : Node) :
    Text × (Fin script.declarations.names.length → Bool) ×
      (Fin script.undeclared.length → Option Bool) :=
  (node.knot, fun index => node.state.value (script.declarations.names.get index),
    fun index => node.state.find? (script.undeclared.get index))

variable {script} {entry : Text}

theorem Reachable.agree {first second : Position} (firstReachable : script.Reachable entry first)
    (secondReachable : script.Reachable entry second)
    (declared : ∀ name ∈ script.declarations.names,
      first.state.value name = second.state.value name)
    (undeclared : ∀ name ∈ script.undeclared, first.state.find? name = second.state.find? name) :
    first.state.Agree second.state := by
  intro name
  by_cases member : name ∈ script.declarations.names
  · have valued {position : Position} (reachable : script.Reachable entry position) :
        position.state.find? name = some (position.state.value name) := by
      have present := (Table.mem_keys_iff _ _).mp (reachable.complete member)
      obtain ⟨value, found⟩ := Option.isSome_iff_exists.mp present
      rw [State.value, found]
      rfl
    rw [valued firstReachable, valued secondReachable, declared name member]
  · by_cases assigned : name ∈ script.assigned
    · refine undeclared name (List.mem_filter.mpr ⟨(mem_firstOfEach _ _).mpr assigned, ?_⟩)
      simpa using member
    · have absent {position : Position} (reachable : script.Reachable entry position) :
          position.state.find? name = none := by
        rw [Table.find?_eq_none_iff]
        intro present
        rcases reachable.named present with declared | changed
        · exact member declared
        · exact assigned changed
      rw [absent firstReachable, absent secondReachable]

theorem id_eq_of_signature_eq {first second : Node} {one other : Position}
    (firstReachable : script.Reachable entry one) (firstStands : first.StandsFor one)
    (secondReachable : script.Reachable entry other) (secondStands : second.StandsFor other)
    (same : script.signature first = script.signature second) : first.id = second.id := by
  obtain ⟨firstId, firstKnot, _, firstState, _⟩ := firstStands.fields
  obtain ⟨secondId, secondKnot, _, secondState, _⟩ := secondStands.fields
  simp only [signature, Prod.mk.injEq, funext_iff] at same
  obtain ⟨knot, declared, undeclared⟩ := same
  rw [firstKnot, secondKnot] at knot
  rw [firstState, secondState] at declared undeclared
  rw [firstId, secondId, knot]
  refine Identity.encode_congr _ (firstReachable.agree secondReachable ?_ ?_)
  · intro name member
    obtain ⟨index, rfl⟩ := List.get_of_mem member
    exact declared index
  · intro name member
    obtain ⟨index, rfl⟩ := List.get_of_mem member
    exact undeclared index

theorem length_le_capacity {nodes : List Node} (distinct : (nodes.map Node.id).Nodup)
    (reached : ∀ node ∈ nodes,
      ∃ position, script.Reachable entry position ∧ node.StandsFor position) :
    nodes.length ≤ script.capacity := by
  have told : (nodes.map script.signature).Nodup := by
    refine List.pairwise_map.mpr ((List.pairwise_map.mp distinct).imp_of_mem ?_)
    intro first second firstMember secondMember different same
    obtain ⟨_, firstReachable, firstStands⟩ := reached first firstMember
    obtain ⟨_, secondReachable, secondStands⟩ := reached second secondMember
    exact different
      (id_eq_of_signature_eq firstReachable firstStands secondReachable secondStands same)
  have inside : (nodes.map script.signature).toFinset ⊆
      (script.knots.map Knot.name).toFinset ×ˢ Finset.univ := by
    intro item member
    obtain ⟨node, nodeMember, rfl⟩ := List.mem_map.mp (List.mem_toFinset.mp member)
    obtain ⟨position, reachable, stands⟩ := reached node nodeMember
    refine Finset.mem_product.mpr ⟨List.mem_toFinset.mpr ?_, Finset.mem_univ _⟩
    exact List.mem_map.mpr
      ⟨position.knot, (knot?_eq_some reachable.found).1, stands.fields.2.1.symm⟩
  have names : (script.knots.map Knot.name).toFinset.card ≤ script.knots.length :=
    (List.toFinset_card_le _).trans_eq (List.length_map _)
  calc nodes.length
      = (nodes.map script.signature).toFinset.card := by
        rw [List.toFinset_card_of_nodup told, List.length_map]
    _ ≤ (script.knots.map Knot.name).toFinset.card *
          (2 ^ script.declarations.names.length * 3 ^ script.undeclared.length) := by
        refine (Finset.card_le_card inside).trans_eq ?_
        simp [Finset.card_product, Fintype.card_prod, Fintype.card_pi]
    _ ≤ script.capacity := by
        rw [capacity_eq, Nat.mul_assoc]
        exact Nat.mul_le_mul_right _ names

end Capacity

theorem explore_cases (script : Script) (entry : Text) :
    script.knot? entry = none ∧
        script.explore entry =
          { visited := [], error? := some (.missingEntry entry script.knotNames) } ∨
      (∃ knot fault, script.knot? entry = some knot ∧
        knot.enter (State.initial script.declarations) = .error fault ∧
        script.explore entry = { visited := [], error? := some (.script fault) }) ∨
      ∃ last, script.Searching entry last ∧ last.Ends script (script.explore entry) := by
  cases found : script.knot? entry with
  | none => exact Or.inl ⟨rfl, by simp only [explore, found]⟩
  | some knot =>
      cases entered : knot.enter (State.initial script.declarations) with
      | error fault =>
          exact Or.inr (Or.inl ⟨knot, fault, rfl, entered, by simp only [explore, found, entered]⟩)
      | ok root =>
          have explored : script.explore entry = script.visit script.capacity [] [root] := by
            simp only [explore, found, entered]
          refine Or.inr (Or.inr ?_)
          obtain ⟨⟨visited, waiting⟩, turns, ended⟩ :=
            visit_turns script script.capacity [] [root]
          have searching : script.Searching entry ⟨visited, waiting⟩ :=
            ⟨knot, root, found, entered, turns⟩
          refine ⟨_, searching, ?_⟩
          rw [explored]
          rcases ended with ended | ⟨same, full⟩
          · exact ended
          · have frontier := Frontier.of_searching searching
            have bound := length_le_capacity frontier.distinct frontier.reached
            -- The visited nodes alone fill the capacity, so there is no room for one that waits.
            have nothing : waiting = [] := by
              simp only [List.length_append, List.length_nil] at full bound
              exact List.eq_nil_of_length_eq_zero (by omega)
            rw [same, nothing]
            exact .done

theorem searching_explore {script : Script} {entry : Text}
    (finished : (script.explore entry).error? = none) :
    script.Searching entry ⟨(script.explore entry).visited, []⟩ := by
  rcases script.explore_cases entry with ⟨_, same⟩ | ⟨_, _, _, _, same⟩ | ⟨last, searching, ends⟩
  · rw [same] at finished
    cases finished
  · rw [same] at finished
    cases finished
  · generalize script.explore entry = exploration at finished ends
    cases ends with
    | done => exact searching
    | failed _ => cases finished

theorem graph_eq_error_iff {script : Script} {entry : Text} {error : StoryError} :
    script.graph entry = .error error ↔ (script.explore entry).error? = some error := by
  unfold graph Exploration.graph
  cases (script.explore entry).error? <;> simp

theorem graph_eq_error {script : Script} {entry : Text} {error : StoryError}
    (failed : script.graph entry = .error error) :
    (∃ fault, error = .script fault) ∨ error = .missingEntry entry script.knotNames ∨
      ∃ target source choice, error = .unknownKnot target source choice script.knotNames := by
  have stopped := graph_eq_error_iff.mp failed
  rcases script.explore_cases entry with ⟨_, same⟩ | ⟨_, fault, _, _, same⟩ | ⟨last, _, ends⟩
  · rw [same] at stopped
    cases stopped
    exact Or.inr (Or.inl rfl)
  · rw [same] at stopped
    cases stopped
    exact Or.inl ⟨fault, rfl⟩
  · generalize script.explore entry = exploration at stopped ends
    cases ends with
    | done => cases stopped
    | failed failing =>
        cases stopped
        rcases failed_of_mem_moves failing with fault | unknown
        · exact Or.inl fault
        · exact Or.inr (Or.inr unknown)

end Script

/-- What a graph has to do with the script it was made of: its nodes stand for reachable positions,
the entry for the start, and the edges of a node for the options there, in order. -/
structure Graph.Charts (graph : Graph) (script : Script) (entry : Text) : Prop where
  keyed : ∀ key node, graph.nodes.find? key = some node → node.id = key
  reached : ∀ key node, graph.nodes.find? key = some node →
    ∃ position, script.Reachable entry position ∧ node.StandsFor position
  rooted : ∃ start root, script.start? entry = some start ∧
    graph.nodes.find? graph.entry = some root ∧ root.StandsFor start
  offers : ∀ key node, graph.nodes.find? key = some node →
    ∀ position, script.Reachable entry position → node.StandsFor position →
      List.Forall₂ (script.Offers position) node.edges position.options
  closed : ∀ key node, graph.nodes.find? key = some node →
    ∀ edge ∈ node.edges, ∃ target, graph.nodes.find? edge.target = some target

theorem Frontier.entries_eq {script : Script} {entry : Text} {nodes : List Node}
    (frontier : Frontier script entry nodes []) :
    (Table.ofPairs (nodes.map fun node => (node.id, node))).entries =
      nodes.map fun node => (node.id, node) := by
  apply Table.entries_ofPairs_of_nodup
  rw [List.map_map, ← List.append_nil nodes]
  exact frontier.distinct

theorem Frontier.find?_eq_some {script : Script} {entry : Text} {nodes : List Node}
    (frontier : Frontier script entry nodes []) (key : Text) (node : Node) :
    (Table.ofPairs (nodes.map fun node => (node.id, node))).find? key = some node ↔
      node ∈ nodes ∧ node.id = key := by
  rw [← Table.mem_entries_iff, frontier.entries_eq, List.mem_map]
  constructor
  · rintro ⟨other, member, same⟩
    cases same
    exact ⟨member, rfl⟩
  · rintro ⟨member, rfl⟩
    exact ⟨node, member, rfl⟩

theorem Script.graph_eq_ok {script : Script} {entry : Text} {graph : Graph}
    (built : script.graph entry = .ok graph) :
    (script.explore entry).error? = none ∧ graph =
      { metadata := script.metadata
        nodes := Table.ofPairs ((script.explore entry).visited.map fun node => (node.id, node))
        entry := Identity.encode entry (State.initial script.declarations) } := by
  unfold Script.graph Exploration.graph at built
  split at built
  · cases built
  · rename_i finished
    cases built
    exact ⟨finished, rfl⟩

theorem Script.charts_graph {script : Script} {entry : Text} {graph : Graph}
    (built : script.graph entry = .ok graph) : graph.Charts script entry := by
  obtain ⟨finished, rfl⟩ := graph_eq_ok built
  have frontier := Frontier.of_searching (searching_explore finished)
  have visited {key : Text} {node : Node} := (frontier.find?_eq_some key node).mp
  constructor
  · intro key node found
    exact (visited found).2
  · intro key node found
    exact frontier.reached node (List.mem_append_left _ (visited found).1)
  · obtain ⟨root, member, start, begins, stands⟩ := frontier.rooted
    refine ⟨start, root, begins, ?_, stands⟩
    rw [frontier.find?_eq_some]
    refine ⟨by simpa using member, ?_⟩
    obtain ⟨found, initial⟩ := Script.start?_eq_some.mp begins
    rw [stands.fields.1, initial, (Script.knot?_eq_some found).2]
  · intro key node found position reachable stands
    have member := (visited found).1
    have clear := frontier.clear node member
    rw [frontier.edges node member]
    rw [Script.moves_eq reachable stands] at clear ⊢
    exact script.edges_offer position _ clear
  · intro key node found edge leads
    have known := frontier.closed node (visited found).1 edge leads
    rw [List.append_nil] at known
    obtain ⟨target, member, same⟩ := List.mem_map.mp known
    exact ⟨target, (frontier.find?_eq_some _ _).mpr ⟨member, same⟩⟩

end Knotwork
