import Knotwork.Proofs.State
import Knotwork.Story.Report

/-! What a report says of a graph. Main statement: no check fails exactly if the graph is
consistent. -/

namespace Knotwork

namespace Graph

theorem mem_values {graph : Graph} {node : Node} :
    node ∈ graph.nodes.values ↔ ∃ key, graph.nodes.find? key = some node :=
  graph.nodes.mem_values_iff node

theorem mem_edges {graph : Graph} {node : Node} {edge : Edge} :
    (node, edge) ∈ graph.edges ↔
      (∃ key, graph.nodes.find? key = some node) ∧ edge ∈ node.edges := by
  simp only [edges, List.mem_flatMap, List.mem_map, mem_values]
  constructor
  · rintro ⟨_, found, _, member, same⟩
    cases same
    exact ⟨found, member⟩
  · rintro ⟨found, member⟩
    exact ⟨node, found, edge, member, rfl⟩

structure Consistent (graph : Graph) (declarations : Declarations) : Prop where
  entry : ∃ root, graph.nodes.find? graph.entry = some root ∧
    ∀ name, root.state.value name = false
  targets : ∀ key node, graph.nodes.find? key = some node →
    ∀ edge ∈ node.edges, ∃ target, graph.nodes.find? edge.target = some target
  identities : ∀ key node, graph.nodes.find? key = some node →
    key = node.id ∧ node.id = Identity.encode node.knot node.state
  states : ∀ key node, graph.nodes.find? key = some node →
    ∀ name ∈ declarations.names, name ∈ node.state.keys
  flags : ∀ key node, graph.nodes.find? key = some node →
    ∀ edge ∈ node.edges, ∀ target, graph.nodes.find? edge.target = some target →
      ∀ name ∈ declarations.namesUnder .flag, node.state.value name = true →
        target.state.value name = true
  locals : ∀ key node, graph.nodes.find? key = some node →
    ∀ edge ∈ node.edges, ∀ target, graph.nodes.find? edge.target = some target →
      node.scene ≠ target.scene → ∀ name ∈ declarations.namesUnder .sceneLocal,
        target.state.value name = false

end Graph

theorem State.any_values_eq_false {state : State} :
    state.values.any id = false ↔ ∀ name, state.value name = false := by
  rw [List.any_eq_false]
  constructor
  · intro clear name
    rw [State.value]
    cases found : state.find? name with
    | none => rfl
    | some value =>
        have member : value ∈ state.values :=
          List.mem_map.mpr ⟨(name, value), (Table.mem_entries_iff _ _ _).mpr found, rfl⟩
        simpa using clear value member
  · intro clear value member
    obtain ⟨⟨name, _⟩, found, rfl⟩ := List.mem_map.mp member
    have false := clear name
    rw [State.value, (Table.mem_entries_iff _ _ _).mp found] at false
    simpa using false

namespace Check

theorem severity_ofOffenders (name : Text) (offenders : List Text) (problem fine : Text) :
    (ofOffenders name offenders problem fine).severity ≠ .fail ↔ offenders = [] := by
  unfold ofOffenders
  split
  · simp
  · rename_i some
    simpa using some

section Meaning

variable (graph : Graph) (declarations : Declarations)

theorem severity_entryNode :
    (entryNode graph).severity ≠ .fail ↔
      ∃ root, graph.nodes.find? graph.entry = some root ∧
        ∀ name, root.state.value name = false := by
  unfold entryNode
  cases found : graph.nodes.find? graph.entry with
  | none => simp
  | some root =>
      simp only [Option.some.injEq, exists_eq_left', ← State.any_values_eq_false]
      split
      · rename_i set
        simp [set]
      · rename_i clear
        simp [clear]

theorem severity_noDanglingEdges :
    (noDanglingEdges graph).severity ≠ .fail ↔
      ∀ key node, graph.nodes.find? key = some node →
        ∀ edge ∈ node.edges, ∃ target, graph.nodes.find? edge.target = some target := by
  rw [noDanglingEdges, severity_ofOffenders, List.filterMap_eq_nil_iff]
  constructor
  · intro targets key node found edge member
    have known := targets (node, edge) (Graph.mem_edges.mpr ⟨⟨key, found⟩, member⟩)
    simp only [ite_eq_left_iff, reduceCtorEq, imp_false, not_not] at known
    exact Option.isSome_iff_exists.mp known
  · rintro targets ⟨node, edge⟩ member
    obtain ⟨⟨key, found⟩, edgeMember⟩ := Graph.mem_edges.mp member
    obtain ⟨target, known⟩ := targets key node found edge edgeMember
    simp [Table.contains, known]

theorem severity_identityConsistency :
    (identityConsistency graph).severity ≠ .fail ↔
      ∀ key node, graph.nodes.find? key = some node →
        key = node.id ∧ node.id = Identity.encode node.knot node.state := by
  rw [identityConsistency, severity_ofOffenders, List.filterMap_eq_nil_iff]
  constructor
  · intro identities key node found
    simpa using identities (key, node) ((Table.mem_entries_iff _ _ _).mpr found)
  · rintro identities ⟨key, node⟩ member
    simpa using identities key node ((Table.mem_entries_iff _ _ _).mp member)

theorem severity_completeStates :
    (completeStates graph declarations).severity ≠ .fail ↔
      ∀ key node, graph.nodes.find? key = some node →
        ∀ name ∈ declarations.names, name ∈ node.state.keys := by
  rw [completeStates, severity_ofOffenders, List.filterMap_eq_nil_iff]
  constructor
  · intro states key node found name declared
    have all := states node (Graph.mem_values.mpr ⟨key, found⟩)
    simp only [ite_eq_left_iff, reduceCtorEq, imp_false, not_not, List.all_eq_true] at all
    exact (Table.mem_keys_iff _ _).mpr (all name declared)
  · intro states node member
    obtain ⟨key, found⟩ := Graph.mem_values.mp member
    rw [if_pos]
    rw [List.all_eq_true]
    intro name declared
    exact (Table.mem_keys_iff _ _).mp (states key node found name declared)

theorem severity_flagMonotonicity :
    (flagMonotonicity graph declarations).severity ≠ .fail ↔
      ∀ key node, graph.nodes.find? key = some node →
        ∀ edge ∈ node.edges, ∀ target, graph.nodes.find? edge.target = some target →
          ∀ name ∈ declarations.namesUnder .flag, node.state.value name = true →
            target.state.value name = true := by
  rw [flagMonotonicity, severity_ofOffenders, List.flatMap_eq_nil_iff]
  constructor
  · intro flags key node found edge member target targetFound name flag set
    have none := flags (node, edge) (Graph.mem_edges.mpr ⟨⟨key, found⟩, member⟩)
    simp only [targetFound, List.map_eq_nil_iff, List.filter_eq_nil_iff] at none
    simpa [set] using none name flag
  · rintro flags ⟨node, edge⟩ member
    obtain ⟨⟨key, found⟩, edgeMember⟩ := Graph.mem_edges.mp member
    cases targetFound : graph.nodes.find? edge.target with
    | none => simp only [targetFound]
    | some target =>
        simp only [targetFound, List.map_eq_nil_iff, List.filter_eq_nil_iff]
        intro name flag reset
        simp only [Bool.and_eq_true, Bool.not_eq_true'] at reset
        have kept := flags key node found edge edgeMember target targetFound name flag reset.1
        rw [reset.2] at kept
        cases kept

theorem severity_localPurge :
    (localPurge graph declarations).severity ≠ .fail ↔
      ∀ key node, graph.nodes.find? key = some node →
        ∀ edge ∈ node.edges, ∀ target, graph.nodes.find? edge.target = some target →
          node.scene ≠ target.scene → ∀ name ∈ declarations.namesUnder .sceneLocal,
            target.state.value name = false := by
  rw [localPurge, severity_ofOffenders, List.filterMap_eq_nil_iff]
  constructor
  · intro locals key node found edge member target targetFound different name sceneLocal
    have none := locals (node, edge) (Graph.mem_edges.mpr ⟨⟨key, found⟩, member⟩)
    simp only [targetFound, if_neg different.symm] at none
    split at none
    · rename_i purged
      simpa using List.filter_eq_nil_iff.mp purged name sceneLocal
    · cases none
  · rintro locals ⟨node, edge⟩ member
    obtain ⟨⟨key, found⟩, edgeMember⟩ := Graph.mem_edges.mp member
    cases targetFound : graph.nodes.find? edge.target with
    | none => simp only [targetFound]
    | some target =>
        by_cases same : target.scene = node.scene
        · simp only [targetFound, if_pos same]
        · have purged : (declarations.namesUnder .sceneLocal).filter target.state.value = [] := by
            rw [List.filter_eq_nil_iff]
            intro name sceneLocal
            have clear := locals key node found edge edgeMember target targetFound (Ne.symm same)
              name sceneLocal
            simp [clear]
          simp only [targetFound, if_neg same, purged]

theorem severity_reachableEndings : (reachableEndings graph).severity ≠ .fail := by
  unfold reachableEndings
  split <;> simp

end Meaning

end Check

theorem Graph.report_unfailing_iff (graph : Graph) (declarations : Declarations) :
    (∀ check ∈ (graph.report declarations).checks, check.severity ≠ .fail) ↔
      graph.Consistent declarations := by
  simp only [Graph.report, List.forall_mem_cons, Check.severity_entryNode,
    Check.severity_noDanglingEdges, Check.severity_identityConsistency,
    Check.severity_completeStates, Check.severity_flagMonotonicity, Check.severity_localPurge]
  constructor
  · rintro ⟨entry, targets, identities, states, flags, locals, _⟩
    exact ⟨entry, targets, identities, states, flags, locals⟩
  · rintro ⟨entry, targets, identities, states, flags, locals⟩
    refine ⟨entry, targets, identities, states, flags, locals, ?_⟩
    simpa using Check.severity_reachableEndings graph

theorem Report.anyFailed_eq_false_iff (report : Report) :
    report.anyFailed = false ↔ ∀ check ∈ report.checks, check.severity ≠ .fail := by
  simp [Report.anyFailed]

end Knotwork
