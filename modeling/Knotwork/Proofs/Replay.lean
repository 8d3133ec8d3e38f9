import Knotwork.Proofs.Exploration

/-! A story can be played along its graph alone. Main statements: whatever options a reader takes,
the walk along the graph goes on exactly as long as the play by the script and shows the same at
every node; and the nodes are the positions of all plays, each once. -/

namespace Knotwork

namespace Node

/-- What a reader sees at a node is what there is to see at a position: the knot, its scene and
whether it is an ending, the values of the variables, the text, and the options in order. -/
structure Shows (node : Node) (position : Position) : Prop where
  knot : node.knot = position.knot.name
  scene : node.scene = position.knot.scene
  isEnd : node.isEnd = position.knot.isEnd
  state : node.state.Agree position.state
  content : node.content = position.shown
  edges : node.edges.map (fun edge => (edge.text, edge.stitch)) =
    position.options.map fun choice => (choice.text, choice.stitch)

end Node

theorem Script.Offers.labels_eq {script : Script} {position : Position} {edges : List Edge}
    {choices : List Choice} (offers : List.Forall₂ (script.Offers position) edges choices) :
    edges.map (fun edge => (edge.text, edge.stitch)) =
      choices.map fun choice => (choice.text, choice.stitch) := by
  refine (map_eq_of_forall₂ ?_ offers).symm
  intro edge choice offer
  rw [offer.text, offer.stitch]

theorem Script.Reachable.alike {script : Script} (plain : script.Plain) {entry : Text}
    {first second : Position} (firstReachable : script.Reachable entry first)
    (secondReachable : script.Reachable entry second)
    (same : Identity.encode first.knot.name first.state =
      Identity.encode second.knot.name second.state) : first.Alike second := by
  obtain ⟨name, agree⟩ := Identity.encode_injective (firstReachable.unbarred plain)
    (secondReachable.unbarred plain) (firstReachable.plain plain) (secondReachable.plain plain) same
  refine ⟨?_, agree⟩
  have found := firstReachable.found
  rw [name, secondReachable.found] at found
  exact (Option.some.inj found).symm

namespace Graph

def KeepsUp (graph : Graph) (script : Script) (entry : Text) (node : Node) (position : Position) :
    Prop :=
  (∃ key, graph.nodes.find? key = some node) ∧
    ∃ reached, script.Reachable entry reached ∧ node.StandsFor reached ∧ reached.Alike position

variable {graph : Graph} {script : Script} {entry : Text}

theorem Charts.shows (charts : graph.Charts script entry) {node : Node} {position : Position}
    (keepsUp : graph.KeepsUp script entry node position) : node.Shows position := by
  obtain ⟨⟨key, found⟩, reached, reachable, stands, alike⟩ := keepsUp
  obtain ⟨_, knot, scene, state, content, isEnd⟩ := stands.fields
  constructor
  · rw [knot, alike.knot]
  · rw [scene, alike.knot]
  · rw [isEnd, alike.knot]
  · rw [state]
    exact alike.state
  · rw [content, alike.shown]
  · rw [← alike.options]
    exact Script.Offers.labels_eq (charts.offers key node found reached reachable stands)

theorem Charts.arrives (charts : graph.Charts script entry) (plain : script.Plain)
    {position : Position} (reachable : script.Reachable entry position) {edge : Edge}
    {choice : Choice} (offered : choice ∈ position.options)
    (offer : script.Offers position edge choice) {target : Node}
    (found : graph.nodes.find? edge.target = some target) :
    ∃ next arrived, script.follow? position choice = some next ∧ script.Reachable entry arrived ∧
      target.StandsFor arrived ∧ arrived.Alike next := by
  obtain ⟨next, followed, leads⟩ := offer.leads
  -- The target may have been found along another edge, with its variables in another order.
  obtain ⟨arrived, arrivedReachable, stands⟩ := charts.reached _ target found
  have same : Identity.encode arrived.knot.name arrived.state =
      Identity.encode next.knot.name next.state := by
    rw [← stands.fields.1, charts.keyed _ target found, leads]
  exact ⟨next, arrived, followed, arrivedReachable, stands,
    arrivedReachable.alike plain (reachable.follow offered followed) same⟩

theorem Charts.keepsUp_step (charts : graph.Charts script entry) (plain : script.Plain)
    {node : Node} {position : Position} (keepsUp : graph.KeepsUp script entry node position)
    (number : Nat) :
    Option.Rel (graph.KeepsUp script entry) (graph.step? node number)
      (script.step? position number) := by
  obtain ⟨⟨key, found⟩, reached, reachable, stands, alike⟩ := keepsUp
  have offers := charts.offers key node found reached reachable stands
  have numbered := rel_getElem?_of_forall₂ offers number
  simp only [step?, Script.step?, ← alike.options]
  generalize atEdge : node.edges[number]? = edge? at numbered
  generalize atOption : reached.options[number]? = choice? at numbered
  cases numbered with
  | none => exact .none
  | @some edge choice offer =>
      obtain ⟨target, targetFound⟩ :=
        charts.closed key node found edge (List.mem_of_getElem? atEdge)
      obtain ⟨next, arrived, followed, arrivedReachable, arrivedStands, arrivedAlike⟩ :=
        charts.arrives plain reachable (List.mem_of_getElem? atOption) offer targetFound
      obtain ⟨other, otherFollowed, nextAlike⟩ := alike.follow followed
      show Option.Rel _ (graph.nodes.find? edge.target) (script.follow? position choice)
      rw [targetFound, otherFollowed]
      exact .some ⟨⟨_, targetFound⟩, arrived, arrivedReachable, arrivedStands,
        arrivedAlike.trans nextAlike⟩

theorem Charts.keepsUp_walk (charts : graph.Charts script entry) (plain : script.Plain)
    {node : Node} {position : Position} (keepsUp : graph.KeepsUp script entry node position)
    (numbers : List Nat) :
    Option.Rel (graph.KeepsUp script entry) (graph.walk? node numbers)
      (script.play? position numbers) := by
  induction numbers generalizing node position with
  | nil => exact .some keepsUp
  | cons number rest ih =>
      have stepped := charts.keepsUp_step plain keepsUp number
      simp only [walk?, Script.play?]
      generalize graph.step? node number = node? at stepped
      generalize script.step? position number = position? at stepped
      cases stepped with
      | none => exact .none
      | some next => exact ih next

theorem Charts.identity (charts : graph.Charts script entry) {key : Text} {node : Node}
    (found : graph.nodes.find? key = some node) : node.id = Identity.encode node.knot node.state := by
  obtain ⟨position, _, stands⟩ := charts.reached key node found
  obtain ⟨id, knot, _, state, _⟩ := stands.fields
  rw [id, knot, state]

theorem Charts.keepsUp_start (charts : graph.Charts script entry) :
    ∃ root start, graph.nodes.find? graph.entry = some root ∧ script.start? entry = some start ∧
      graph.KeepsUp script entry root start := by
  obtain ⟨start, root, begins, found, stands⟩ := charts.rooted
  exact ⟨root, start, found, begins, ⟨_, found⟩, start, .start begins, stands, rfl, fun _ => rfl⟩

end Graph

def cellarStory : Text :=
  Text.joinWith ['\n']
    ["// FLAG-STATES: seen", "// LOCAL-STATES: draft",
     "=== index ===", "// scene: house", "- {left == true} Dark.", "- Hall.",
     "* {left == false} Left ~ left = true",
     "* {right == false} Right ~ right = true ~ draft = true",
     "* {left == true && right == true} Down -> cellar",
     "=== cellar ===", "// scene: below", "Cellar.",
     "* {seen == false} Up ~ seen = true -> index", "* {seen == true} Stay", "END"]

theorem cellarStory_builds :
    ∃ script graph, Script.read cellarStory = .ok script ∧ script.graph "index" = .ok graph ∧
      graph.nodes.keys.length = 7 := by
  have computed : ((Script.read cellarStory).toOption.bind fun script =>
      (script.graph "index").toOption.map fun graph => graph.nodes.keys.length) = some 7 := by
    decide +kernel
  cases parsed : Script.read cellarStory with
  | error error =>
      rw [parsed] at computed
      cases computed
  | ok script =>
      rw [parsed] at computed
      cases built : script.graph "index" with
      | error error =>
          simp only [Except.toOption, Option.bind_some, built] at computed
          cases computed
      | ok graph =>
          simp only [Except.toOption, Option.bind_some, built] at computed
          exact ⟨script, graph, rfl, built, Option.some.inj computed⟩

/-- A walk along the graph of a script replays the play by the script, whatever options are taken:
both go on or neither does, and they show the same. -/
theorem walk_replays_play {source : Text} {script : Script} {entry : Text} {graph : Graph}
    (parsed : Script.read source = .ok script) (built : script.graph entry = .ok graph) :
    ∃ root start, graph.entryNode = .ok root ∧ script.start? entry = some start ∧
      ∀ numbers, Option.Rel Node.Shows (graph.walk? root numbers) (script.play? start numbers) := by
  have charts := Script.charts_graph built
  have plain := (Script.sound_of_read parsed).plain
  obtain ⟨root, start, found, begins, keepsUp⟩ := charts.keepsUp_start
  refine ⟨root, start, ?_, begins, ?_⟩
  · rw [Graph.entryNode, Table.get, found]
  · intro numbers
    have walked := charts.keepsUp_walk plain keepsUp numbers
    generalize graph.walk? root numbers = node? at walked ⊢
    generalize script.play? start numbers = position? at walked ⊢
    cases walked with
    | none => exact .none
    | some last => exact .some (charts.shows last)

theorem walk_replays_play_cellar :
    ∃ script graph root start, Script.read cellarStory = .ok script ∧
      script.graph "index" = .ok graph ∧ graph.entryNode = .ok root ∧
      script.start? "index" = some start ∧
      ∀ numbers, Option.Rel Node.Shows (graph.walk? root numbers) (script.play? start numbers) := by
  obtain ⟨script, graph, parsed, built, _⟩ := cellarStory_builds
  obtain ⟨root, start, found, begins, replays⟩ := walk_replays_play parsed built
  exact ⟨script, graph, root, start, parsed, built, found, begins, replays⟩

/-- The nodes of a graph are the ends of all plays: every node is the end of a play, every play ends
at the knot of a node with its values, and no knot has two nodes with the same values. -/
theorem nodes_are_ends_of_plays {source : Text} {script : Script} {entry : Text} {graph : Graph}
    (parsed : Script.read source = .ok script) (built : script.graph entry = .ok graph) :
    ∃ start, script.start? entry = some start ∧
      (∀ key node, graph.nodes.find? key = some node →
        ∃ numbers position, script.play? start numbers = some position ∧
          position.knot.name = node.knot ∧ position.state = node.state) ∧
      (∀ numbers position, script.play? start numbers = some position →
        ∃ key node, graph.nodes.find? key = some node ∧
          node.knot = position.knot.name ∧ node.state.Agree position.state) ∧
      ∀ first second one other, graph.nodes.find? first = some one →
        graph.nodes.find? second = some other → first ≠ second →
        ¬(one.knot = other.knot ∧ one.state.Agree other.state) := by
  have charts := Script.charts_graph built
  have plain := (Script.sound_of_read parsed).plain
  obtain ⟨root, start, _, begins, keepsUp⟩ := charts.keepsUp_start
  refine ⟨start, begins, ?_, ?_, ?_⟩
  · intro key node found
    obtain ⟨position, reachable, stands⟩ := charts.reached key node found
    obtain ⟨other, otherBegins, numbers, played⟩ :=
      (script.reachable_iff_play? entry position).mp reachable
    rw [begins] at otherBegins
    cases otherBegins
    obtain ⟨_, knot, _, state, _⟩ := stands.fields
    exact ⟨numbers, position, played, knot.symm, state.symm⟩
  · intro numbers position played
    have walked := charts.keepsUp_walk plain keepsUp numbers
    rw [played] at walked
    generalize graph.walk? root numbers = node? at walked
    cases walked with
    | some last =>
        have shows := charts.shows last
        obtain ⟨⟨key, found⟩, _⟩ := last
        exact ⟨key, _, found, shows.knot, shows.state⟩
  · rintro first second one other found otherFound different ⟨knot, agree⟩
    apply different
    rw [← charts.keyed first one found, ← charts.keyed second other otherFound,
      charts.identity found, charts.identity otherFound, knot]
    exact Identity.encode_congr _ agree

theorem nodes_are_ends_of_plays_cellar :
    ∃ script graph start, Script.read cellarStory = .ok script ∧
      script.graph "index" = .ok graph ∧ graph.nodes.keys.length = 7 ∧
      script.start? "index" = some start ∧
      (∀ key node, graph.nodes.find? key = some node →
        ∃ numbers position, script.play? start numbers = some position ∧
          position.knot.name = node.knot ∧ position.state = node.state) ∧
      (∀ numbers position, script.play? start numbers = some position →
        ∃ key node, graph.nodes.find? key = some node ∧
          node.knot = position.knot.name ∧ node.state.Agree position.state) ∧
      ∀ first second one other, graph.nodes.find? first = some one →
        graph.nodes.find? second = some other → first ≠ second →
        ¬(one.knot = other.knot ∧ one.state.Agree other.state) := by
  obtain ⟨script, graph, parsed, built, seven⟩ := cellarStory_builds
  obtain ⟨start, begins, sound, complete, once⟩ := nodes_are_ends_of_plays parsed built
  exact ⟨script, graph, start, parsed, built, seven, begins, sound, complete, once⟩

end Knotwork
