import Knotwork.Proofs.Play
import Mathlib.Data.List.Forall2

/-! What comes of the choices of a node, told by the rules of play. Main statements: a choice has one
of six outcomes, and where none of them is a failure, the edges are those of the options, in order. -/

namespace Knotwork

namespace Knot

theorem enter_eq_ok {knot : Knot} {state : State} {stitch : Option Text} {node : Node} :
    knot.enter state stitch = .ok node ↔
      ∃ content, knot.content state = .ok content ∧
        node = { id := Identity.encode knot.name state, knot := knot.name, scene := knot.scene,
                 state, content, isEnd := knot.isEnd, stitch } := by
  rw [enter, Except.bind_eq_ok]
  simp [pure, Except.pure, eq_comm]

theorem firstContent_eq_shown (position : Position) {blocks : List Block} {content : Text}
    (shown : firstContent position.state blocks = .ok content) :
    content = ((blocks.find? fun block => position.allows block.condition).map
      Block.content).getD [] := by
  induction blocks with
  | nil =>
      cases shown
      rfl
  | cons block rest ih =>
      simp only [firstContent] at shown
      split at shown
      · cases shown
      · rename_i holds
        cases shown
        simp [(position.allows_iff block.condition).mpr holds]
      · rename_i fails
        have hidden : position.allows block.condition = false := by
          rw [Bool.eq_false_iff, ne_eq, position.allows_iff, fails]
          simp
        simpa [hidden] using ih shown

end Knot

namespace Node

/-- A node stands for a position if it is the one made on entering it there, but for its edges. -/
def StandsFor (node : Node) (position : Position) : Prop :=
  position.knot.enter position.state node.stitch = .ok { node with edges := [] }

theorem standsFor_of_enter {position : Position} {stitch : Option Text} {node : Node}
    (entered : position.knot.enter position.state stitch = .ok node) : node.StandsFor position := by
  obtain ⟨content, shown, rfl⟩ := Knot.enter_eq_ok.mp entered
  exact entered

theorem StandsFor.fields {node : Node} {position : Position} (stands : node.StandsFor position) :
    node.id = Identity.encode position.knot.name position.state ∧
      node.knot = position.knot.name ∧ node.scene = position.knot.scene ∧
      node.state = position.state ∧ node.content = position.shown ∧
      node.isEnd = position.knot.isEnd := by
  obtain ⟨content, shown, same⟩ := Knot.enter_eq_ok.mp stands
  simp only [Node.mk.injEq] at same
  obtain ⟨id, knot, scene, state, contents, _, isEnd, _⟩ := same
  refine ⟨id, knot, scene, state, ?_, isEnd⟩
  rw [contents, Knot.firstContent_eq_shown position shown]
  rfl

end Node

namespace Move

theorem node?_eq_some {move : Move} {node : Node} :
    move.node? = some node ↔ ∃ edge, move = .taken edge node := by
  cases move <;> simp [node?]

theorem edge?_eq_some {move : Move} {edge : Edge} :
    move.edge? = some edge ↔ ∃ node, move = .taken edge node := by
  cases move <;> simp [edge?]

end Move

namespace Script

/-- What comes of a choice, told by the rules of play: it is hidden, it leads nowhere, it is taken,
or it fails in one of three ways. -/
inductive Outcome (script : Script) (position : Position) (choice : Choice) : Option Move → Prop
  | hidden : Condition.test choice.condition position.state = .ok false →
      Outcome script position choice none
  | dropped : Condition.test choice.condition position.state = .ok true →
      choice.destination? position.knot.name = none →
      Outcome script position choice (some (.dropped choice.text))
  | taken {next node} : Condition.test choice.condition position.state = .ok true →
      script.follow? position choice = some next →
      next.knot.enter next.state choice.stitch = .ok node →
      Outcome script position choice
        (some (.taken { text := choice.text, target := node.id, stitch := choice.stitch } node))
  | unreadable {error} : Condition.test choice.condition position.state = .error error →
      Outcome script position choice (some (.failed (.script error)))
  | unknown {name} : Condition.test choice.condition position.state = .ok true →
      choice.destination? position.knot.name = some name → script.knot? name = none →
      Outcome script position choice
        (some (.failed (.unknownKnot name position.knot.name choice.text script.knotNames)))
  | unshown {next error} : Condition.test choice.condition position.state = .ok true →
      script.follow? position choice = some next →
      next.knot.enter next.state choice.stitch = .error error →
      Outcome script position choice (some (.failed (.script error)))

theorem outcome_move? (script : Script) (position : Position) (choice : Choice) :
    script.Outcome position choice (script.move? position.knot position.state choice) := by
  unfold move?
  split
  · rename_i error test
    exact .unreadable test
  · rename_i test
    exact .hidden test
  · rename_i test
    split
    · rename_i destination
      exact .dropped test destination
    · rename_i name destination
      split
      · rename_i missing
        exact .unknown test destination missing
      · rename_i target found
        let state := script.arrive position.knot.scene target.scene
          (position.state.apply script.declarations choice.changes)
        have followed : script.follow? position choice = some ⟨target, state⟩ :=
          follow?_eq_some.mpr ⟨name, destination, found, rfl⟩
        dsimp only
        split
        · rename_i error failed
          exact .unshown test followed failed
        · rename_i node entered
          exact .taken test followed entered

theorem mem_options {position : Position} {choice : Choice} :
    choice ∈ position.options ↔ choice ∈ position.knot.choices ∧
      Condition.test choice.condition position.state = .ok true ∧
      (choice.destination? position.knot.name).isSome = true := by
  simp only [Position.options, List.mem_filter, Bool.and_eq_true, Position.allows_iff]

/-- An edge stands for an option: it has its text and stitch, and leads to the identity of the
position that the option leads to. -/
structure Offers (script : Script) (position : Position) (edge : Edge) (choice : Choice) : Prop where
  text : edge.text = choice.text
  stitch : edge.stitch = choice.stitch
  leads : ∃ next, script.follow? position choice = some next ∧
    edge.target = Identity.encode next.knot.name next.state

theorem edges_offer (script : Script) (position : Position) (choices : List Choice)
    (clear : (choices.filterMap (script.move? position.knot position.state)).findSome?
      Move.error? = none) :
    List.Forall₂ (script.Offers position)
      ((choices.filterMap (script.move? position.knot position.state)).filterMap Move.edge?)
      (choices.filter fun choice => position.allows choice.condition &&
        (choice.destination? position.knot.name).isSome) := by
  induction choices with
  | nil => exact .nil
  | cons choice rest ih =>
      have outcome := script.outcome_move? position choice
      generalize move : script.move? position.knot position.state choice = result at outcome
      cases outcome with
      | hidden test =>
          have hides : position.allows choice.condition = false := by
            rw [Bool.eq_false_iff, ne_eq, position.allows_iff, test]
            simp
          rw [List.filterMap_cons_none move] at clear ⊢
          rw [List.filter_cons_of_neg (by simp [hides])]
          exact ih clear
      | dropped test nowhere =>
          rw [List.filterMap_cons_some move] at clear ⊢
          rw [List.filterMap_cons_none rfl, List.filter_cons_of_neg (by simp [nowhere])]
          exact ih clear
      | taken test followed entered =>
          have shows := (position.allows_iff choice.condition).mpr test
          obtain ⟨name, destination, _⟩ := follow?_eq_some.mp followed
          rw [List.filterMap_cons_some move] at clear ⊢
          rw [List.filter_cons_of_pos (by simp [shows, destination])]
          refine .cons ⟨rfl, rfl, _, followed, ?_⟩ (ih clear)
          exact (Node.standsFor_of_enter entered).fields.1
      | unreadable _ =>
          rw [List.filterMap_cons_some move] at clear
          simp [Move.error?] at clear
      | unknown _ _ _ =>
          rw [List.filterMap_cons_some move] at clear
          simp [Move.error?] at clear
      | unshown _ _ _ =>
          rw [List.filterMap_cons_some move] at clear
          simp [Move.error?] at clear

theorem moves_eq {script : Script} {entry : Text} {position : Position} {node : Node}
    (reachable : script.Reachable entry position) (stands : node.StandsFor position) :
    script.moves node =
      position.knot.choices.filterMap (script.move? position.knot position.state) := by
  have fields := stands.fields
  rw [moves, fields.2.1, reachable.found, fields.2.2.2.1]

theorem taken_of_mem_moves {script : Script} {position : Position} {edge : Edge} {node : Node}
    (member : .taken edge node ∈
      position.knot.choices.filterMap (script.move? position.knot position.state)) :
    ∃ choice ∈ position.options, ∃ next, script.follow? position choice = some next ∧
      node.StandsFor next ∧ node.edges = [] ∧
      edge = { text := choice.text, target := node.id, stitch := choice.stitch } := by
  obtain ⟨choice, choiceMember, move⟩ := List.mem_filterMap.mp member
  have outcome := script.outcome_move? position choice
  rw [move] at outcome
  cases outcome with
  | taken test followed entered =>
      obtain ⟨name, destination, _⟩ := follow?_eq_some.mp followed
      have offered : choice ∈ position.options :=
        mem_options.mpr ⟨choiceMember, test, by simp [destination]⟩
      obtain ⟨_, _, made⟩ := Knot.enter_eq_ok.mp entered
      exact ⟨choice, offered, _, followed, Node.standsFor_of_enter entered, by rw [made], rfl⟩

theorem outcome_of_failing (script : Script) (position : Position) {error : StoryError}
    (failing : (position.knot.choices.filterMap (script.move? position.knot position.state)).findSome?
      Move.error? = some error) :
    ∃ choice ∈ position.knot.choices, script.Outcome position choice (some (.failed error)) := by
  obtain ⟨move, member, isError⟩ := List.exists_of_findSome?_eq_some failing
  obtain ⟨choice, present, made⟩ := List.mem_filterMap.mp member
  have outcome := script.outcome_move? position choice
  rw [made] at outcome
  cases move with
  | failed fault =>
      cases isError
      exact ⟨choice, present, outcome⟩
  | dropped _ => cases isError
  | taken _ _ => cases isError

theorem failed_of_mem_moves {script : Script} {node : Node} {error : StoryError}
    (failing : (script.moves node).findSome? Move.error? = some error) :
    (∃ fault, error = .script fault) ∨
      ∃ target source choice, error = .unknownKnot target source choice script.knotNames := by
  unfold moves at failing
  split at failing
  · cases failing
  · rename_i knot _
    obtain ⟨choice, _, outcome⟩ := script.outcome_of_failing ⟨knot, node.state⟩ failing
    cases outcome with
    | unreadable _ => exact Or.inl ⟨_, rfl⟩
    | unknown _ _ _ => exact Or.inr ⟨_, _, _, rfl⟩
    | unshown _ _ _ => exact Or.inl ⟨_, rfl⟩

end Script

end Knotwork
