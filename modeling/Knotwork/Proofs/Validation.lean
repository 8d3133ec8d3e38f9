import Knotwork.Proofs.Replay
import Knotwork.Proofs.Report
import Knotwork.Story.Compile

/-! Checking what was built. Main statement: the graph of a script that was read is consistent, so
compiling has the same outcome with and without the checks. -/

namespace Knotwork

namespace Graph

section Built

variable {graph : Graph} {script : Script} {entry : Text}

theorem Charts.edge_follows (charts : graph.Charts script entry) (plain : script.Plain)
    {key : Text} {node : Node} (found : graph.nodes.find? key = some node) {edge : Edge}
    (member : edge ∈ node.edges) {target : Node}
    (targetFound : graph.nodes.find? edge.target = some target) :
    ∃ position choice next, script.follow? position choice = some next ∧
      node.scene = position.knot.scene ∧ node.state = position.state ∧
      target.scene = next.knot.scene ∧ target.state.Agree next.state := by
  obtain ⟨position, reachable, stands⟩ := charts.reached key node found
  obtain ⟨number, numbered⟩ := List.mem_iff_getElem?.mp member
  have offers := charts.offers key node found position reachable stands
  have offer := rel_getElem?_of_forall₂ offers number
  rw [numbered] at offer
  generalize atOption : position.options[number]? = choice? at offer
  cases offer with
  | some offer =>
      obtain ⟨next, arrived, followed, _, arrivedStands, alike⟩ :=
        charts.arrives plain reachable (List.mem_of_getElem? atOption) offer targetFound
      obtain ⟨_, _, scene, state, _⟩ := stands.fields
      obtain ⟨_, _, targetScene, targetState, _⟩ := arrivedStands.fields
      refine ⟨position, _, next, followed, scene, state, ?_, ?_⟩
      · rw [targetScene, alike.knot]
      · rw [targetState]
        exact alike.state

theorem Charts.consistent (charts : graph.Charts script entry) (plain : script.Plain) :
    graph.Consistent script.declarations := by
  constructor
  · obtain ⟨start, root, begins, found, stands⟩ := charts.rooted
    refine ⟨root, found, ?_⟩
    intro name
    rw [stands.fields.2.2.2.1, (Script.start?_eq_some.mp begins).2, State.value,
      State.find?_initial]
    split <;> rfl
  · exact charts.closed
  · intro key node found
    exact ⟨(charts.keyed key node found).symm, charts.identity found⟩
  · intro key node found name declared
    obtain ⟨position, reachable, stands⟩ := charts.reached key node found
    rw [stands.fields.2.2.2.1]
    exact reachable.complete declared
  · intro key node found edge member target targetFound name flag set
    obtain ⟨position, choice, next, followed, _, state, _, agree⟩ :=
      charts.edge_follows plain found member targetFound
    rw [State.value, agree name]
    rw [state] at set
    exact Script.flag_follow followed flag set
  · intro key node found edge member target targetFound different name sceneLocal
    obtain ⟨position, choice, next, followed, scene, _, targetScene, agree⟩ :=
      charts.edge_follows plain found member targetFound
    rw [State.value, agree name]
    rw [scene, targetScene] at different
    exact Script.local_follow followed different sceneLocal

end Built

end Graph

namespace Script

theorem consistent_graph {source : Text} {script : Script} {entry : Text} {graph : Graph}
    (parsed : Script.read source = .ok script) (built : script.graph entry = .ok graph) :
    graph.Consistent script.declarations :=
  (charts_graph built).consistent (sound_of_read parsed).plain

theorem compile_eq {source : Text} {script : Script} (parsed : Script.read source = .ok script)
    (options : CompileOptions) :
    script.compile options =
      (script.graph options.entry).map fun graph => graph.withDefaults options.defaults := by
  unfold compile
  cases built : script.graph options.entry with
  | error error => rfl
  | ok graph =>
      -- No check looks at the metadata.
      have clean :
          ((graph.withDefaults options.defaults).report script.declarations).anyFailed = false :=
        (Report.anyFailed_eq_false_iff _).mpr
          ((graph.report_unfailing_iff script.declarations).mpr (consistent_graph parsed built))
      simp [bind, Except.bind, pure, Except.pure, Except.map, clean]

end Script

theorem compile_eq_ok {source : Text} {options : CompileOptions} {graph : Graph}
    (compiled : compile source options = .ok graph) :
    ∃ script base, Script.read source = .ok script ∧ script.graph options.entry = .ok base ∧
      graph = base.withDefaults options.defaults := by
  unfold compile at compiled
  split at compiled
  · cases compiled
  · rename_i script parsed
    rw [Script.compile_eq parsed] at compiled
    cases built : script.graph options.entry with
    | error error =>
        rw [built] at compiled
        cases compiled
    | ok base =>
        rw [built] at compiled
        cases compiled
        exact ⟨script, base, parsed, built, rfl⟩

/-- The checks of a compiled graph never fail: compiling has the same outcome with and without them,
no check of the graph of a script that was read comes out as a failure, and no compilation reports a
violated invariant. -/
theorem validation_never_fires (source entry : Text) (defaults : Table Text) :
    compile source { entry, validate := true, defaults } =
        compile source { entry, validate := false, defaults } ∧
      (∀ script graph, Script.read source = .ok script → script.graph entry = .ok graph →
        ∀ check ∈ (graph.report script.declarations).checks, check.severity ≠ .fail) ∧
      ∀ validate violations,
        compile source { entry, validate, defaults } ≠ .error (.corrupted violations) := by
  refine ⟨?_, ?_, ?_⟩
  · unfold compile
    split
    · rfl
    · rename_i script parsed
      rw [Script.compile_eq parsed, Script.compile_eq parsed]
  · intro script graph parsed built
    exact (graph.report_unfailing_iff script.declarations).mpr
      (Script.consistent_graph parsed built)
  · intro validate violations failed
    unfold compile at failed
    split at failed
    · cases failed
    · rename_i script parsed
      rw [Script.compile_eq parsed] at failed
      cases built : script.graph entry with
      | ok graph =>
          rw [built] at failed
          cases failed
      | error error =>
          rw [built] at failed
          cases failed
          rcases Script.graph_eq_error built with ⟨_, same⟩ | same | ⟨_, _, _, same⟩
          · cases same
          · cases same
          · cases same

theorem validation_never_fires_cellar :
    ∃ script graph, Script.read cellarStory = .ok script ∧ script.graph "index" = .ok graph ∧
      ∀ check ∈ (graph.report script.declarations).checks, check.severity ≠ .fail := by
  obtain ⟨script, graph, parsed, built, _⟩ := cellarStory_builds
  exact ⟨script, graph, parsed, built,
    (validation_never_fires cellarStory "index" Table.empty).2.1 script graph parsed built⟩

end Knotwork
