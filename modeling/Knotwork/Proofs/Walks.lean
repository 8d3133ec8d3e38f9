import Knotwork.Proofs.Report
import Knotwork.Story.Play

/-! What a report without failures says of a story as a whole. Main statement: no check fails exactly
if the graph is consistent, and then a walk from the entry can go on along any edge, no flag is ever
set back on the way, and no local variable comes along into another scene. -/

namespace Knotwork

namespace Graph

variable {graph : Graph}

theorem step?_eq_some {node next : Node} {number : Nat} :
    graph.step? node number = some next ↔
      ∃ edge, node.edges[number]? = some edge ∧ graph.nodes.find? edge.target = some next := by
  simp only [step?, Option.bind_eq_bind, Option.bind_eq_some_iff]

theorem walk?_cons_eq_some {node last : Node} {number : Nat} {rest : List Nat} :
    graph.walk? node (number :: rest) = some last ↔
      ∃ next, graph.step? node number = some next ∧ graph.walk? next rest = some last := by
  simp only [walk?, Option.bind_eq_bind, Option.bind_eq_some_iff]

theorem walk?_append (node : Node) (first second : List Nat) :
    graph.walk? node (first ++ second) = (graph.walk? node first).bind (graph.walk? · second) := by
  induction first generalizing node with
  | nil => rfl
  | cons number rest ih =>
      simp only [List.cons_append, walk?]
      cases graph.step? node number with
      | none => rfl
      | some next => exact ih next

theorem registered_of_step? {node next : Node} {number : Nat}
    (stepped : graph.step? node number = some next) :
    ∃ key, graph.nodes.find? key = some next := by
  obtain ⟨edge, _, found⟩ := step?_eq_some.mp stepped
  exact ⟨edge.target, found⟩

theorem registered_of_walk? {node last : Node} {numbers : List Nat}
    (registered : ∃ key, graph.nodes.find? key = some node)
    (walked : graph.walk? node numbers = some last) :
    ∃ key, graph.nodes.find? key = some last := by
  induction numbers generalizing node with
  | nil =>
      cases walked
      exact registered
  | cons number rest ih =>
      obtain ⟨next, stepped, onward⟩ := walk?_cons_eq_some.mp walked
      exact ih (registered_of_step? stepped) onward

namespace Consistent

variable {declarations : Declarations} (consistent : graph.Consistent declarations) {node : Node}
  (registered : ∃ key, graph.nodes.find? key = some node)

include consistent registered

theorem step_of_edge {number : Nat} {edge : Edge} (numbered : node.edges[number]? = some edge) :
    ∃ target, graph.nodes.find? edge.target = some target ∧
      graph.step? node number = some target := by
  obtain ⟨key, found⟩ := registered
  obtain ⟨target, known⟩ :=
    consistent.targets key node found edge (List.mem_of_getElem? numbered)
  exact ⟨target, known, step?_eq_some.mpr ⟨edge, numbered, known⟩⟩

theorem flag_step {number : Nat} {next : Node} (stepped : graph.step? node number = some next)
    {name : Text} (flag : name ∈ declarations.namesUnder .flag)
    (set : node.state.value name = true) : next.state.value name = true := by
  obtain ⟨key, found⟩ := registered
  obtain ⟨edge, numbered, known⟩ := step?_eq_some.mp stepped
  exact consistent.flags key node found edge (List.mem_of_getElem? numbered) next known name flag set

theorem local_step {number : Nat} {next : Node} (stepped : graph.step? node number = some next)
    (different : node.scene ≠ next.scene) {name : Text}
    (sceneLocal : name ∈ declarations.namesUnder .sceneLocal) : next.state.value name = false := by
  obtain ⟨key, found⟩ := registered
  obtain ⟨edge, numbered, known⟩ := step?_eq_some.mp stepped
  exact consistent.locals key node found edge (List.mem_of_getElem? numbered) next known different
    name sceneLocal

theorem flag_walk {numbers : List Nat} {later : Node}
    (walked : graph.walk? node numbers = some later) {name : Text}
    (flag : name ∈ declarations.namesUnder .flag) (set : node.state.value name = true) :
    later.state.value name = true := by
  induction numbers generalizing node with
  | nil =>
      cases walked
      exact set
  | cons number rest ih =>
      obtain ⟨next, stepped, onward⟩ := walk?_cons_eq_some.mp walked
      have stillSet := consistent.flag_step registered stepped flag set
      exact ih (registered_of_step? stepped) onward stillSet

end Consistent

end Graph

/-- A report without failures certifies a graph and every walk through it. No check fails exactly if
the graph is consistent. In that case the entry is a node, and at whatever node a walk from there has
come to, every edge leads to a node, a flag that is set stays set however the walk goes on, and a step
into another scene ends with every local variable false. -/
theorem clean_report_certifies_walks (graph : Graph) (declarations : Declarations) :
    ((∀ check ∈ (graph.report declarations).checks, check.severity ≠ .fail) ↔
      graph.Consistent declarations) ∧
    ((∀ check ∈ (graph.report declarations).checks, check.severity ≠ .fail) →
      ∃ root, graph.entryNode = .ok root ∧
        ∀ numbers node, graph.walk? root numbers = some node →
          (∀ number edge, node.edges[number]? = some edge →
            ∃ target, graph.nodes.find? edge.target = some target ∧
              graph.walk? root (numbers ++ [number]) = some target) ∧
          (∀ onward later, graph.walk? node onward = some later →
            ∀ name ∈ declarations.namesUnder .flag, node.state.value name = true →
              later.state.value name = true) ∧
          ∀ number next, graph.step? node number = some next → node.scene ≠ next.scene →
            ∀ name ∈ declarations.namesUnder .sceneLocal, next.state.value name = false) := by
  refine ⟨graph.report_unfailing_iff declarations, ?_⟩
  intro clean
  have consistent := (graph.report_unfailing_iff declarations).mp clean
  obtain ⟨root, found, _⟩ := consistent.entry
  refine ⟨root, by rw [Graph.entryNode, Table.get, found], ?_⟩
  intro numbers node walked
  have registered := Graph.registered_of_walk? ⟨graph.entry, found⟩ walked
  refine ⟨?_, ?_, ?_⟩
  · intro number edge numbered
    obtain ⟨target, known, stepped⟩ := consistent.step_of_edge registered numbered
    refine ⟨target, known, ?_⟩
    rw [Graph.walk?_append, walked, Option.bind_some, Graph.walk?_cons_eq_some]
    exact ⟨target, stepped, rfl⟩
  · intro onward later walkedOn name flag set
    exact consistent.flag_walk registered walkedOn flag set
  · intro number next stepped different name sceneLocal
    exact consistent.local_step registered stepped different sceneLocal

def millGraph : Graph where
  nodes := Table.ofPairs
    [("mill|grain=false,lamp=false",
      { id := "mill|grain=false,lamp=false", knot := "mill", scene := "yard"
        state := Table.ofPairs [("lamp", false), ("grain", false)]
        edges := [{ text := "Wait", target := "mill|grain=false,lamp=false" },
                  { text := "Grind", target := "mill|grain=true,lamp=true" }] }),
     ("mill|grain=true,lamp=true",
      { id := "mill|grain=true,lamp=true", knot := "mill", scene := "yard"
        state := Table.ofPairs [("grain", true), ("lamp", true)]
        edges := [{ text := "Climb", target := "loft|grain=true,lamp=false" }] }),
     ("loft|grain=true,lamp=false",
      { id := "loft|grain=true,lamp=false", knot := "loft", scene := "tower"
        state := Table.ofPairs [("grain", true), ("lamp", false)], isEnd := true }),
     ("pond|grain=false,lamp=true",
      { id := "pond|grain=false,lamp=true", knot := "pond", scene := "yard"
        state := Table.ofPairs [("grain", false), ("lamp", true)]
        edges := [{ text := "Dive", target := "loft|grain=true,lamp=false" }] })]
  entry := "mill|grain=false,lamp=false"

theorem clean_report_certifies_walks_mill :
    (∀ check ∈ (millGraph.report { flags := ["grain"], locals := ["lamp"] }).checks,
      check.severity ≠ .fail) ∧
    ∃ root, millGraph.entryNode = .ok root ∧
      (millGraph.walk? root [0, 1, 0]).map Node.knot = some "loft".toList ∧
      ∀ numbers node, millGraph.walk? root numbers = some node →
        ∀ onward later, millGraph.walk? node onward = some later →
          node.state.value "grain" = true → later.state.value "grain" = true := by
  have clean : ∀ check ∈ (millGraph.report { flags := ["grain"], locals := ["lamp"] }).checks,
      check.severity ≠ .fail := by
    decide +kernel
  have walked : (millGraph.entryNode.toOption.bind (millGraph.walk? · [0, 1, 0])).map Node.knot =
      some "loft".toList := by
    decide +kernel
  obtain ⟨root, found, walks⟩ :=
    (clean_report_certifies_walks millGraph { flags := ["grain"], locals := ["lamp"] }).2 clean
  rw [found] at walked
  refine ⟨clean, root, found, walked, ?_⟩
  intro numbers node reached onward later walkedOn set
  exact (walks numbers node reached).2.1 onward later walkedOn "grain" (by decide) set

end Knotwork
