import Knotwork.Proofs.Failure
import Knotwork.Proofs.Report

/-! Parts of a script that no reader ever sees. Main statement: knots without a node, and choices that
lead nowhere or whose condition holds at no node of their knot, may be added, removed or changed, and
the graph stays what it is. Both searches take the same turns, since a search looks only at knots that
get a node. -/

namespace Knotwork

namespace Search

variable {script : Script}

theorem Turn.rightUnique : Relator.RightUnique (Turn script) := by
  intro search one other first second
  cases first with
  | follow _ =>
      cases second with
      | follow _ => rfl

theorem Ends.not_turn {search next : Search} {exploration : Exploration}
    (ends : search.Ends script exploration) : ¬search.Turn script next := by
  intro turn
  cases ends with
  | done => cases turn
  | failed failing =>
      cases turn with
      | follow clear =>
          rw [failing] at clear
          cases clear

theorem mem_visited_of_turns {search last : Search}
    (turns : Relation.ReflTransGen (Turn script) search last) {node : Node}
    (member : node ∈ search.visited) : node ∈ last.visited := by
  induction turns with
  | refl => exact member
  | tail _ turn ih =>
      cases turn with
      | follow _ => exact List.mem_append_left _ ih

end Search

namespace Script

theorem explore_eq_of_searching {script : Script} {entry : Text} {last : Search}
    (searching : script.Searching entry last) {exploration : Exploration}
    (ends : last.Ends script exploration) : script.explore entry = exploration := by
  obtain ⟨knot, root, found, entered, turns⟩ := searching
  rcases script.explore_cases entry with
    ⟨missing, _⟩ | ⟨other, _, otherFound, failed, _⟩ | ⟨other, searching, otherEnds⟩
  · rw [found] at missing
    cases missing
  · rw [found] at otherFound
    cases otherFound
    rw [entered] at failed
    cases failed
  · obtain ⟨_, _, otherFound, otherEntered, otherTurns⟩ := searching
    rw [found] at otherFound
    cases otherFound
    rw [entered] at otherEntered
    cases otherEntered
    have same : other = last :=
      eq_of_stopped Search.Turn.rightUnique otherTurns turns (fun _ => otherEnds.not_turn)
        fun _ => ends.not_turn
    subst same
    cases ends with
    | done =>
        generalize script.explore entry = result at otherEnds
        cases otherEnds
        rfl
    | failed failing =>
        generalize script.explore entry = result at otherEnds
        cases otherEnds with
        | failed other =>
            rw [failing] at other
            cases other
            rfl

end Script

namespace Graph

/-- A choice that is of no use at any node of its knot: its condition can be read, and either it
leads nowhere or the condition does not hold at any of the nodes. -/
structure Idle (graph : Graph) (knot : Text) (choice : Choice) : Prop where
  readable : ∃ condition, Condition.read choice.condition = .ok condition
  useless : (choice.target = none ∨ choice.target = some []) ∧ choice.changes = [] ∨
    ∀ node ∈ graph.nodes.values, node.knot = knot →
      Condition.test choice.condition node.state = .ok false

inductive Retouched (graph : Graph) (knot : Text) : List Choice → List Choice → Prop
  | nil : Retouched graph knot [] []
  | keep (choice) {before after} : Retouched graph knot before after →
      Retouched graph knot (choice :: before) (choice :: after)
  | remove {choice before after} : graph.Idle knot choice → Retouched graph knot before after →
      Retouched graph knot (choice :: before) after
  | insert {choice before after} : graph.Idle knot choice → Retouched graph knot before after →
      Retouched graph knot before (choice :: after)

theorem Retouched.filterMap_eq {graph : Graph} {knot : Text} {before after : List Choice}
    (retouched : graph.Retouched knot before after) {α : Type} {first second : Choice → Option α}
    (kept : ∀ choice ∈ before, first choice = second choice)
    (removed : ∀ choice, graph.Idle knot choice → first choice = none)
    (inserted : ∀ choice, graph.Idle knot choice → second choice = none) :
    before.filterMap first = after.filterMap second := by
  induction retouched with
  | nil => rfl
  | keep choice _ ih =>
      have rest := ih fun other member => kept other (List.mem_cons_of_mem _ member)
      rw [List.filterMap_cons, List.filterMap_cons, kept choice (by simp), rest]
  | remove idle _ ih =>
      rw [List.filterMap_cons_none (removed _ idle)]
      exact ih fun other member => kept other (List.mem_cons_of_mem _ member)
  | insert idle _ ih =>
      rw [List.filterMap_cons_none (inserted _ idle)]
      exact ih kept

structure Resembles (graph : Graph) (knot twin : Knot) : Prop where
  name : knot.name = twin.name
  scene : knot.scene = twin.scene
  body : knot.body = twin.body
  isEnd : knot.isEnd = twin.isEnd
  choices : graph.Retouched knot.name knot.choices twin.choices

theorem Resembles.enter_eq {graph : Graph} {knot twin : Knot} (alike : graph.Resembles knot twin)
    (state : State) (stitch : Option Text) : knot.enter state stitch = twin.enter state stitch := by
  simp only [Knot.enter, Knot.content, alike.name, alike.scene, alike.body, alike.isEnd]

end Graph

/-- Scripts that are the same as far as a graph goes: every knot that has a node there stands in both,
up to idle choices. The other knots need not have anything in common. -/
structure Script.SameWithin (first second : Script) (graph : Graph) : Prop where
  metadata : first.metadata = second.metadata
  declarations : first.declarations = second.declarations
  knots : ∀ node ∈ graph.nodes.values, ∀ knot, first.knot? node.knot = some knot →
    ∃ twin, second.knot? node.knot = some twin ∧ graph.Resembles knot twin

namespace Script

theorem move?_of_idle {graph : Graph} {node : Node} (member : node ∈ graph.nodes.values)
    {choice : Choice} (idle : graph.Idle node.knot choice) (script : Script) (knot : Knot) :
    script.move? knot node.state choice = none ∨
      script.move? knot node.state choice = some (.dropped choice.text) := by
  obtain ⟨condition, readable⟩ := idle.readable
  have tested : Condition.test choice.condition node.state = .ok (condition.holds node.state) := by
    rw [Condition.test, readable]
    rfl
  cases holds : condition.holds node.state with
  | false =>
      rw [holds] at tested
      exact Or.inl (by simp only [move?, tested])
  | true =>
      rw [holds] at tested
      rcases idle.useless with ⟨untargeted, unchanged⟩ | hidden
      · have nowhere : choice.destination? knot.name = none := by
          rcases untargeted with none | empty
          · simp [Choice.destination?, none, unchanged]
          · simp [Choice.destination?, empty, unchanged]
        exact Or.inr (by simp only [move?, tested, nowhere])
      · rw [hidden node member rfl] at tested
        cases tested

section Twins

variable {first second : Script} {entry : Text} {graph : Graph}

theorem SameWithin.move?_eq (same : first.SameWithin second graph)
    (charts : graph.Charts first entry) (plain : first.Plain) {position : Position}
    (reachable : first.Reachable entry position) {twin : Knot}
    (alike : graph.Resembles position.knot twin) {choice : Choice}
    (present : choice ∈ position.knot.choices)
    (clear : (first.move? position.knot position.state choice).bind Move.error? = none) :
    first.move? position.knot position.state choice = second.move? twin position.state choice := by
  have outcome := first.outcome_move? position choice
  generalize moved : first.move? position.knot position.state choice = move? at outcome clear
  cases outcome with
  | hidden test => simp only [move?, test]
  | dropped test nowhere =>
      rw [alike.name] at nowhere
      simp only [move?, test, nowhere]
  | @taken next node test followed entered =>
      obtain ⟨target, destination, found, arrived⟩ := follow?_eq_some.mp followed
      -- The choice leads to a position that has a node, so its knot is in the other script too.
      have offered := mem_options.mpr ⟨present, test, by simp [destination]⟩
      obtain ⟨arrival, keepsUp⟩ := charts.covers plain (reachable.follow offered followed)
      have shown := (charts.shows keepsUp).knot
      have targetName := (knot?_eq_some found).2
      have member := Graph.mem_values.mpr keepsUp.1
      obtain ⟨other, otherFound, otherAlike⟩ :=
        same.knots arrival member next.knot (by rw [shown, targetName, found])
      rw [shown, targetName] at otherFound
      rw [otherAlike.enter_eq, arrived, alike.scene, otherAlike.scene, arrive,
        same.declarations] at entered
      rw [alike.name] at destination
      simp only [move?, test, destination, otherFound, arrive, entered]
  | unreadable _ => cases clear
  | unknown _ _ _ => cases clear
  | unshown _ _ _ => cases clear

theorem SameWithin.filterMap_moves (same : first.SameWithin second graph)
    (charts : graph.Charts first entry) (plain : first.Plain) {node : Node}
    (member : first.followed node ∈ graph.nodes.values) {position : Position}
    (reachable : first.Reachable entry position) (stands : node.StandsFor position)
    (clear : (first.moves node).findSome? Move.error? = none) {α : Type} {part : Move → Option α}
    (quiet : ∀ text, part (.dropped text) = none) :
    (first.moves node).filterMap part = (second.moves node).filterMap part := by
  have found : first.knot? node.knot = some position.knot := by
    rw [stands.fields.2.1, reachable.found]
  obtain ⟨twin, twinFound, alike⟩ := same.knots _ member position.knot found
  have twinHere : second.knot? node.knot = some twin := twinFound
  have none {script : Script} {knot : Knot} {choice : Choice}
      (idle : graph.Idle position.knot.name choice) :
      (script.move? knot node.state choice).bind part = none := by
    rw [← stands.fields.2.1] at idle
    rcases move?_of_idle member idle script knot with hidden | dropped
    · exact congrArg (Option.bind · part) hidden
    · exact (congrArg (Option.bind · part) dropped).trans (quiet _)
  have state := stands.fields.2.2.2.1
  rw [moves, found, ← List.head?_filterMap, List.filterMap_filterMap, List.head?_filterMap,
    List.findSome?_eq_none_iff] at clear
  rw [moves, found, moves, twinHere, List.filterMap_filterMap, List.filterMap_filterMap]
  apply alike.choices.filterMap_eq
  · intro choice present
    have unfailing := clear choice present
    rw [state] at unfailing ⊢
    rw [same.move?_eq charts plain reachable alike present unfailing]
  · intro choice idle
    exact none idle
  · intro choice idle
    exact none idle

theorem SameWithin.turn (same : first.SameWithin second graph) (charts : graph.Charts first entry)
    (plain : first.Plain) {search next : Search} (searching : first.Searching entry search)
    (turn : search.Turn first next) (registered : ∀ node ∈ next.visited, node ∈ graph.nodes.values) :
    search.Turn second next := by
  have frontier := Frontier.of_searching searching
  cases turn with
  | @follow visited node waiting clear =>
      have member := registered (first.followed node) (by simp)
      obtain ⟨position, reachable, stands⟩ := frontier.reached node (by simp)
      have moves {α : Type} {part : Move → Option α} (quiet : ∀ text, part (.dropped text) = none) :=
        same.filterMap_moves charts plain member reachable stands clear quiet
      have followed : second.followed node = first.followed node := by
        rw [followed, followed, moves fun _ => rfl]
      have found : second.found visited node waiting = first.found visited node waiting := by
        rw [Script.found, Script.found, moves fun _ => rfl]
      have unfailing : (second.moves node).findSome? Move.error? = none := by
        rw [← List.head?_filterMap, ← moves fun _ => rfl, List.head?_filterMap, clear]
      rw [← followed, ← found]
      exact .follow unfailing

theorem SameWithin.searching (same : first.SameWithin second graph)
    (charts : graph.Charts first entry) (plain : first.Plain) {last : Search}
    (searching : first.Searching entry last)
    (registered : ∀ node ∈ last.visited, node ∈ graph.nodes.values) :
    second.Searching entry last := by
  obtain ⟨knot, root, found, entered, turns⟩ := searching
  obtain ⟨start, node, begins, rooted, stands⟩ := charts.rooted
  have startFound := (start?_eq_some.mp begins).1
  rw [found, Option.some.injEq] at startFound
  have named : node.knot = entry := by
    rw [stands.fields.2.1, ← startFound, (knot?_eq_some found).2]
  obtain ⟨twin, twinFound, alike⟩ :=
    same.knots node (Graph.mem_values.mpr ⟨_, rooted⟩) knot (by rw [named, found])
  refine ⟨twin, root, named ▸ twinFound, ?_, ?_⟩
  · rw [← alike.enter_eq, ← same.declarations]
    exact entered
  · induction turns with
    | refl => exact .refl
    | tail before turn ih =>
        have earlier := ih fun node member =>
          registered node (Search.mem_visited_of_turns (.single turn) member)
        exact earlier.tail (same.turn charts plain ⟨_, _, found, entered, before⟩ turn registered)

end Twins

end Script

/-- What no reader ever sees has no part in the graph: a script that is the same within the graph of
another one has the same graph. -/
theorem graph_ignores_unseen_parts {first second : Script} {entry : Text} {graph : Graph}
    (plain : first.Plain) (built : first.graph entry = .ok graph)
    (same : first.SameWithin second graph) : second.graph entry = .ok graph := by
  have charts := Script.charts_graph built
  obtain ⟨finished, shape⟩ := Script.graph_eq_ok built
  have searching := Script.searching_explore finished
  have registered : ∀ node ∈ (first.explore entry).visited, node ∈ graph.nodes.values := by
    intro node member
    refine Graph.mem_values.mpr ⟨node.id, ?_⟩
    rw [shape, (Frontier.of_searching searching).find?_eq_some]
    exact ⟨member, rfl⟩
  have explored := Script.explore_eq_of_searching
    (same.searching charts plain searching registered) .done
  rw [Script.graph, Exploration.graph, explored, shape, same.metadata, same.declarations]

namespace Inn

def pay : Choice := { text := "Pay", condition := "paid == false", changes := [⟨"paid", true⟩] }

def leave : Choice := { text := "Leave", condition := "paid == true", target := some "road" }

def muse : Choice := { text := "Muse", stitch := some ".fire" }

def cheat : Choice :=
  { text := "Cheat", condition := "paid == true && paid == false", target := some "cellar" }

def fly : Choice := { text := "Fly", condition := "wings == true", target := some "nowhere" }

def script : Script where
  declarations := { flags := ["paid"] }
  knots :=
    [{ name := "hall", scene := "inn", body := [{ content := "A fire." }],
       choices := [pay, muse, leave] },
     { name := "road", isEnd := true },
     { name := "attic", choices := [{ text := "Down", target := some "hall" }] }]
  distinct := by decide

def retouched : Script where
  declarations := { flags := ["paid"] }
  knots :=
    [{ name := "cellar", choices := [{ condition := "dark", target := some "nowhere" }] },
     { name := "road", choices := [fly], isEnd := true },
     { name := "hall", scene := "inn", body := [{ content := "A fire." }],
       choices := [pay, cheat, leave] }]
  distinct := by decide

def graph : Graph where
  nodes := Table.ofPairs
    [("hall|paid=false",
      { id := "hall|paid=false", knot := "hall", scene := "inn",
        state := Table.ofPairs [("paid", false)], content := "A fire."
        edges := [{ text := "Pay", target := "hall|paid=true" }] }),
     ("hall|paid=true",
      { id := "hall|paid=true", knot := "hall", scene := "inn",
        state := Table.ofPairs [("paid", true)], content := "A fire."
        edges := [{ text := "Leave", target := "road|paid=true" }] }),
     ("road|paid=true",
      { id := "road|paid=true", knot := "road", state := Table.ofPairs [("paid", true)],
        isEnd := true })]
  entry := "hall|paid=false"

theorem graph_script : script.graph "hall" = .ok graph :=
  Except.eq_ok_of_toOption (by decide +kernel)

theorem sameWithin : script.SameWithin retouched graph := by
  have names : ∀ node ∈ graph.nodes.values, node.knot = "hall" ∨ node.knot = "road" := by
    decide +kernel
  refine ⟨rfl, rfl, ?_⟩
  intro node member knot found
  rcases names node member with named | named
  · have musing : graph.Idle "hall" muse := ⟨⟨_, rfl⟩, Or.inl ⟨Or.inl rfl, rfl⟩⟩
    have cheating : graph.Idle "hall" cheat :=
      ⟨⟨⟨[⟨"paid", false, true⟩, ⟨"paid", false, false⟩]⟩, by decide +kernel⟩,
        Or.inr (by decide +kernel)⟩
    rw [named] at found ⊢
    cases found
    exact ⟨_, rfl, rfl, rfl, rfl, rfl,
      .keep pay (.remove musing (.insert cheating (.keep leave .nil)))⟩
  · have flying : graph.Idle "road" fly :=
      ⟨⟨⟨[⟨"wings", false, true⟩]⟩, by decide +kernel⟩, Or.inr (by decide +kernel)⟩
    rw [named] at found ⊢
    cases found
    exact ⟨_, rfl, rfl, rfl, rfl, rfl, .insert flying .nil⟩

end Inn

theorem graph_ignores_unseen_parts_inn :
    Inn.script.graph "hall" = .ok Inn.graph ∧ Inn.retouched.graph "hall" = .ok Inn.graph ∧
      Inn.script.knotNames ≠ Inn.retouched.knotNames := by
  have plain : Inn.script.Plain := ⟨by decide, by decide⟩
  exact ⟨Inn.graph_script, graph_ignores_unseen_parts plain Inn.graph_script Inn.sameWithin,
    by decide⟩

end Knotwork
