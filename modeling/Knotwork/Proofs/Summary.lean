import Knotwork.Proofs.Failure
import Knotwork.Proofs.Report
import Knotwork.Story.Summary
import Mathlib.Algebra.BigOperators.Group.List.Lemmas
import Mathlib.Algebra.GroupWithZero.Nat

/-! What the figures of a summary say about play. Main statement: they count and list what a reader can
come to by the rules of play, although they are computed from the graph alone. The link between the two
is that the identities of the nodes are those of all reachable positions, each once. -/

namespace Knotwork

def Position.identity (position : Position) : Text :=
  Identity.encode position.knot.name position.state

/-- Nothing leads on: every choice has a condition that does not hold, or neither a target nor
changes. -/
def Position.Stuck (position : Position) : Prop :=
  ∀ choice ∈ position.knot.choices,
    Condition.test choice.condition position.state = .ok false ∨
      choice.target = none ∧ choice.changes = []

namespace Script

/-- A census lists every position that a reader can come to, and each only once, whatever the order of
its variables. -/
structure Census (script : Script) (entry : Text) (positions : List Position) : Prop where
  reached : ∀ position ∈ positions, script.Reachable entry position
  complete : ∀ position, script.Reachable entry position →
    ∃ listed ∈ positions, listed.Alike position
  apart : positions.Pairwise fun one other => ¬one.Alike other

structure Lists (script : Script) (entry : Text) (kind : Position → Prop) (ids : List Text) :
    Prop where
  distinct : ids.Nodup
  reached : ∀ id ∈ ids, ∃ position, script.Reachable entry position ∧ position.identity = id
  exact : ∀ position, script.Reachable entry position → (position.identity ∈ ids ↔ kind position)

end Script

/-- A summary that tells of play: of the knots that a reader never comes to, of the number of states in
which each other knot can be entered, of the positions where a story ends or is stuck, and of the
number of options that there are in all of them. -/
structure Summary.TellsOf (summary : Summary) (script : Script) (entry : Text) : Prop where
  unreachable_sorted : summary.unreachable.Pairwise (· < ·)
  unreachable : ∀ name, name ∈ summary.unreachable ↔
    name ∈ script.knotNames ∧
      ¬∃ position, script.Reachable entry position ∧ position.knot.name = name
  entered_sorted : (summary.statesPerKnot.map Prod.fst).Pairwise (· < ·)
  entered : ∀ name, name ∈ summary.statesPerKnot.map Prod.fst ↔
    name ∈ script.knotNames ∧ name ∉ summary.unreachable
  states : ∀ positions, script.Census entry positions →
    ∀ item ∈ summary.statesPerKnot,
      item.2 = (positions.filter fun position => position.knot.name = item.1).length
  states_total : (summary.statesPerKnot.map Prod.snd).sum = summary.nodeCount
  nodes : ∀ positions, script.Census entry positions → summary.nodeCount = positions.length
  deadEnds : script.Lists entry
    (fun position => position.knot.isEnd = false ∧ position.Stuck) summary.deadEnds
  endings : script.Lists entry (fun position => position.knot.isEnd = true) summary.endings
  edges : ∀ positions, script.Census entry positions →
    summary.edgeTotal = (positions.map fun position => position.options.length).sum

theorem Position.Alike.identity_eq {one other : Position} (alike : one.Alike other) :
    one.identity = other.identity := by
  rw [Position.identity, Position.identity, alike.knot]
  exact Identity.encode_congr _ alike.state

theorem Choice.Sound.destination?_eq_none {choice : Choice} (sound : choice.Sound) (current : Text) :
    choice.destination? current = none ↔ choice.target = none ∧ choice.changes = [] := by
  unfold Choice.destination?
  split
  · rename_i named
    simp [named]
  · rename_i unnamed
    have untargeted : choice.target = none := by
      cases target : choice.target with
      | none => rfl
      | some name =>
          obtain ⟨first, rest, rfl⟩ :=
            List.exists_cons_of_ne_nil (sound.leads.target name target).1
          exact absurd target (unnamed first rest)
    simp [untargeted]

theorem Position.options_eq_nil_iff {position : Position} (sound : position.knot.Sound) :
    position.options = [] ↔ position.Stuck := by
  rw [List.eq_nil_iff_forall_not_mem]
  constructor
  · intro none choice present
    obtain ⟨value, tested⟩ :=
      Condition.test_of_stored (sound.choices choice present).condition position.state
    cases value with
    | false => exact Or.inl tested
    | true =>
        refine Or.inr (((sound.choices choice present).destination?_eq_none position.knot.name).mp ?_)
        by_contra leads
        exact none choice
          (Script.mem_options.mpr ⟨present, tested, Option.isSome_iff_ne_none.mpr leads⟩)
  · intro stuck choice offered
    obtain ⟨present, tested, leads⟩ := Script.mem_options.mp offered
    rcases stuck choice present with fails | nowhere
    · rw [fails] at tested
      cases tested
    · rw [((sound.choices choice present).destination?_eq_none _).mpr nowhere] at leads
      cases leads

namespace Graph

section Counting

variable {graph : Graph} {script : Script} {entry : Text}

theorem Charts.mem_keys_iff (charts : graph.Charts script entry) (plain : script.Plain)
    (key : Text) :
    key ∈ graph.nodes.keys ↔
      ∃ position, script.Reachable entry position ∧ position.identity = key := by
  constructor
  · intro member
    rw [Table.mem_keys_iff, Option.isSome_iff_exists] at member
    obtain ⟨node, found⟩ := member
    obtain ⟨position, reachable, stands⟩ := charts.reached key node found
    refine ⟨position, reachable, ?_⟩
    rw [Position.identity, ← stands.fields.1, charts.keyed key node found]
  · rintro ⟨position, reachable, rfl⟩
    obtain ⟨node, ⟨key, found⟩, reached, _, stands, alike⟩ := charts.covers plain reachable
    have same : key = position.identity := by
      rw [← alike.identity_eq, ← charts.keyed key node found, stands.fields.1, Position.identity]
    rw [← same, Table.mem_keys_iff, found]
    rfl

theorem Charts.shows_of_id (charts : graph.Charts script entry) (plain : script.Plain)
    {node : Node} (member : node ∈ graph.nodes.values) {position : Position}
    (reachable : script.Reachable entry position) (same : node.id = position.identity) :
    node.Shows position := by
  obtain ⟨key, found⟩ := mem_values.mp member
  obtain ⟨reached, reachedReachable, stands⟩ := charts.reached key node found
  have alike : reached.Alike position := by
    apply reachedReachable.alike plain reachable
    rw [← stands.fields.1, same, Position.identity]
  exact charts.shows ⟨⟨key, found⟩, reached, reachedReachable, stands, alike⟩

theorem Charts.ids_eq (charts : graph.Charts script entry) :
    graph.nodes.values.map Node.id = graph.nodes.keys := by
  rw [Table.values, Table.keys, List.map_map]
  apply List.map_congr_left
  rintro ⟨key, node⟩ member
  exact charts.keyed key node ((Table.mem_entries_iff _ _ _).mp member)

theorem Charts.nodup_ids (charts : graph.Charts script entry) :
    (graph.nodes.values.map Node.id).Nodup := by
  rw [charts.ids_eq]
  exact graph.nodes.distinct

theorem Charts.ids_perm (charts : graph.Charts script entry) (plain : script.Plain)
    {positions : List Position} (census : script.Census entry positions) :
    graph.nodes.keys.Perm (positions.map Position.identity) := by
  have apart : (positions.map Position.identity).Nodup := by
    refine List.pairwise_map.mpr (census.apart.imp_of_mem ?_)
    intro one other oneMember otherMember different same
    exact different
      ((census.reached one oneMember).alike plain (census.reached other otherMember) same)
  have distinct : graph.nodes.keys.Nodup := graph.nodes.distinct
  refine (List.perm_ext_iff_of_nodup distinct apart).mpr ?_
  intro key
  rw [charts.mem_keys_iff plain, List.mem_map]
  constructor
  · rintro ⟨position, reachable, rfl⟩
    obtain ⟨listed, member, alike⟩ := census.complete position reachable
    exact ⟨listed, member, alike.identity_eq⟩
  · rintro ⟨position, member, same⟩
    exact ⟨position, census.reached position member, same⟩

theorem Charts.map_perm (charts : graph.Charts script entry) (plain : script.Plain)
    {positions : List Position} (census : script.Census entry positions) {α : Type}
    {ofNode : Node → α} {ofPosition : Position → α}
    (same : ∀ node position, node.Shows position → ofNode node = ofPosition position) :
    (graph.nodes.values.map ofNode).Perm (positions.map ofPosition) := by
  let ofId : Text → Option α := fun id => (graph.nodes.find? id).map ofNode
  have nodes : graph.nodes.values.map ofNode = graph.nodes.keys.filterMap ofId := by
    rw [Table.values, Table.keys, List.filterMap_map, List.map_map, ← List.filterMap_eq_map]
    apply List.filterMap_congr
    rintro ⟨key, node⟩ member
    simp [ofId, (Table.mem_entries_iff _ _ _).mp member]
  have counted : positions.map ofPosition =
      (positions.map Position.identity).filterMap ofId := by
    rw [List.filterMap_map, ← List.filterMap_eq_map]
    apply List.filterMap_congr
    intro position member
    have reachable := census.reached position member
    have known := (charts.mem_keys_iff plain position.identity).mpr ⟨position, reachable, rfl⟩
    obtain ⟨node, found⟩ := Option.isSome_iff_exists.mp ((Table.mem_keys_iff _ _).mp known)
    have shows := charts.shows_of_id plain (mem_values.mpr ⟨_, found⟩) reachable
      (charts.keyed _ node found)
    simp [ofId, found, same node position shows]
  rw [nodes, counted]
  exact (charts.ids_perm plain census).filterMap ofId

def positions (graph : Graph) (script : Script) : List Position :=
  graph.nodes.values.filterMap fun node =>
    (script.knot? node.knot).map fun knot => { knot, state := node.state }

theorem Charts.position_of_mem (charts : graph.Charts script entry) {node : Node}
    (member : node ∈ graph.nodes.values) {position : Position}
    (stood : (script.knot? node.knot).map (fun knot => { knot, state := node.state }) =
      some position) : script.Reachable entry position ∧ position.identity = node.id := by
  obtain ⟨key, found⟩ := mem_values.mp member
  obtain ⟨reached, reachable, stands⟩ := charts.reached key node found
  obtain ⟨id, knot, _, state, _⟩ := stands.fields
  rw [knot, reachable.found, state] at stood
  cases stood
  exact ⟨reachable, id.symm⟩

theorem Charts.census (charts : graph.Charts script entry) (plain : script.Plain) :
    script.Census entry (graph.positions script) := by
  constructor
  · intro position member
    obtain ⟨node, nodeMember, stood⟩ := List.mem_filterMap.mp member
    exact (charts.position_of_mem nodeMember stood).1
  · intro position reachable
    obtain ⟨node, ⟨key, found⟩, reached, reachedReachable, stands, alike⟩ :=
      charts.covers plain reachable
    refine ⟨reached, List.mem_filterMap.mpr ⟨node, mem_values.mpr ⟨key, found⟩, ?_⟩, alike⟩
    obtain ⟨_, knot, _, state, _⟩ := stands.fields
    rw [knot, reachedReachable.found, state]
    rfl
  · refine List.pairwise_filterMap.mpr ((List.pairwise_map.mp charts.nodup_ids).imp_of_mem ?_)
    intro one other oneMember otherMember different first oneStood second otherStood alike
    apply different
    rw [← (charts.position_of_mem oneMember oneStood).2,
      ← (charts.position_of_mem otherMember otherStood).2, alike.identity_eq]

theorem Charts.lists (charts : graph.Charts script entry) (plain : script.Plain)
    {ofNode : Node → Bool} {kind : Position → Prop}
    (told : ∀ node position, script.Reachable entry position → node.Shows position →
      (ofNode node = true ↔ kind position)) :
    script.Lists entry kind ((graph.nodes.values.filter ofNode).map Node.id) := by
  constructor
  · exact charts.nodup_ids.sublist (List.filter_sublist.map Node.id)
  · intro id member
    obtain ⟨node, filtered, rfl⟩ := List.mem_map.mp member
    rw [← charts.mem_keys_iff plain, ← charts.ids_eq]
    exact List.mem_map.mpr ⟨node, (List.mem_filter.mp filtered).1, rfl⟩
  · intro position reachable
    constructor
    · intro member
      obtain ⟨node, filtered, same⟩ := List.mem_map.mp member
      obtain ⟨nodeMember, holds⟩ := List.mem_filter.mp filtered
      exact (told node position reachable
        (charts.shows_of_id plain nodeMember reachable same)).mp holds
    · intro holds
      have known := (charts.mem_keys_iff plain position.identity).mpr ⟨position, reachable, rfl⟩
      rw [← charts.ids_eq] at known
      obtain ⟨node, nodeMember, same⟩ := List.mem_map.mp known
      have shows := charts.shows_of_id plain nodeMember reachable same
      exact List.mem_map.mpr ⟨node,
        List.mem_filter.mpr ⟨nodeMember, (told node position reachable shows).mpr holds⟩, same⟩

theorem Charts.mem_knots_iff (charts : graph.Charts script entry) (plain : script.Plain)
    (name : Text) :
    name ∈ graph.nodes.values.map Node.knot ↔
      ∃ position, script.Reachable entry position ∧ position.knot.name = name := by
  have census := charts.census plain
  rw [(charts.map_perm plain census fun _ _ shows => shows.knot).mem_iff, List.mem_map]
  constructor
  · rintro ⟨position, member, same⟩
    exact ⟨position, census.reached position member, same⟩
  · rintro ⟨position, reachable, same⟩
    obtain ⟨listed, member, alike⟩ := census.complete position reachable
    exact ⟨listed, member, by rw [alike.knot, same]⟩

end Counting

end Graph

theorem Text.sort_increases {texts : List Text} (distinct : texts.Nodup) :
    (Text.sort texts).Pairwise (· < ·) := by
  have ordered : (Text.sort texts).Pairwise fun first second => Text.atMost first second = true :=
    pairwise_sortBy _ Text.atMost_total (fun _ _ _ => Text.atMost_trans) texts
  have apart : (Text.sort texts).Nodup := (sortBy_perm Text.atMost texts).nodup_iff.mpr distinct
  refine (ordered.and apart).imp ?_
  rintro first second ⟨lower, different⟩
  exact lt_of_le_of_ne ((Text.atMost_iff_le first second).mp lower) different

theorem sum_count_firstOfEach {α : Type} [equality : BEq α] [LawfulBEq α] [DecidableEq α]
    {items sorted : List α}
    (order : sorted.Perm (firstOfEach items)) :
    (sorted.map fun item => items.count item).sum = items.length := by
  have same : (firstOfEach items).Perm items.dedup := by
    refine (List.perm_ext_iff_of_nodup (nodup_firstOfEach items) items.nodup_dedup).mpr ?_
    intro item
    rw [mem_firstOfEach, List.mem_dedup]
  obtain rfl : equality = instBEqOfDecidableEq := lawful_beq_subsingleton _ _
  calc (sorted.map fun item => items.count item).sum
      = (items.dedup.map fun item => items.count item).sum :=
        ((order.trans same).map _).sum_nat
    _ = items.length := items.sum_map_count_dedup_eq_length

namespace Graph

section Figures

variable (graph : Graph) (script : Script)

theorem mem_unreachable (name : Text) :
    name ∈ (graph.summarize script).unreachable ↔
      name ∈ script.knotNames ∧ name ∉ graph.nodes.values.map Node.knot := by
  simp [summarize, Text.mem_sort]

theorem names_statesPerKnot :
    (graph.summarize script).statesPerKnot.map Prod.fst =
      Text.sort (firstOfEach (graph.nodes.values.map Node.knot)) := by
  simp [summarize, Function.comp_def]

theorem counts_statesPerKnot :
    ((graph.summarize script).statesPerKnot.map Prod.snd).sum = graph.nodes.values.length := by
  have order : (Text.sort (firstOfEach (graph.nodes.values.map Node.knot))).Perm
      (firstOfEach (graph.nodes.values.map Node.knot)) := sortBy_perm Text.atMost _
  simp only [summarize, List.map_map, Function.comp_def]
  rw [sum_count_firstOfEach order, List.length_map]

theorem count_of_mem_statesPerKnot {item : Text × Nat}
    (member : item ∈ (graph.summarize script).statesPerKnot) :
    item.2 = (graph.nodes.values.map Node.knot).count item.1 := by
  obtain ⟨name, _, rfl⟩ := List.mem_map.mp member
  rfl

theorem edgeTotal_eq :
    (graph.summarize script).edgeTotal =
      (graph.nodes.values.map fun node => node.edges.length).sum := by
  simp [summarize, edgeTotal, edges, List.length_flatMap]

end Figures

theorem Charts.tellsOf {graph : Graph} {script : Script} {entry : Text}
    (charts : graph.Charts script entry) (sound : script.Sound) :
    (graph.summarize script).TellsOf script entry := by
  have plain := sound.plain
  have entered := charts.mem_knots_iff plain
  constructor
  · exact Text.sort_increases (script.distinct.filter _)
  · intro name
    rw [mem_unreachable, entered]
  · rw [names_statesPerKnot]
    exact Text.sort_increases (nodup_firstOfEach _)
  · intro name
    rw [names_statesPerKnot, Text.mem_sort, mem_firstOfEach, mem_unreachable]
    constructor
    · intro visited
      refine ⟨?_, fun missed => missed.2 visited⟩
      obtain ⟨position, reachable, rfl⟩ := (entered name).mp visited
      exact List.mem_map.mpr ⟨position.knot, (Script.knot?_eq_some reachable.found).1, rfl⟩
    · rintro ⟨known, notMissed⟩
      by_contra unvisited
      exact notMissed ⟨known, unvisited⟩
  · intro positions census item member
    have knots := charts.map_perm plain census fun _ _ shows => shows.knot
    rw [count_of_mem_statesPerKnot graph script member, knots.count_eq, List.count_eq_countP,
      List.countP_map, List.countP_eq_length_filter]
    simp only [Function.comp_def, beq_eq_decide]
  · exact graph.counts_statesPerKnot script
  · intro positions census
    have ids := (charts.ids_perm plain census).length_eq
    rw [List.length_map, Table.keys, List.length_map] at ids
    rw [← ids]
    simp [summarize, Table.values]
  · apply charts.lists plain
    intro node position reachable shows
    have edges : node.edges = [] ↔ position.options = [] := by
      rw [← List.map_eq_nil_iff, shows.edges, List.map_eq_nil_iff]
    rw [Node.isDeadEnd, Bool.and_eq_true, List.isEmpty_iff, edges, Bool.not_eq_true', shows.isEnd,
      Position.options_eq_nil_iff (reachable.sound sound), and_comm]
  · apply charts.lists plain
    intro node position _ shows
    rw [shows.isEnd]
  · intro positions census
    rw [edgeTotal_eq]
    apply List.Perm.sum_nat
    apply charts.map_perm plain census
    intro node position shows
    have labels := congrArg List.length shows.edges
    rw [List.length_map, List.length_map] at labels
    exact labels

end Graph

/-- The figures of a summary are computed from the graph alone, and still tell of play. The positions
that a reader can come to can be listed, and the figures are right by every such list. -/
theorem summary_tells_of_play {source : Text} {script : Script} {entry : Text} {graph : Graph}
    (parsed : Script.read source = .ok script) (built : script.graph entry = .ok graph) :
    (∃ positions, script.Census entry positions) ∧
      (graph.summarize script).TellsOf script entry := by
  have charts := Script.charts_graph built
  have sound := Script.sound_of_read parsed
  exact ⟨⟨_, charts.census sound.plain⟩, charts.tellsOf sound⟩

def towerStory : Text :=
  Text.joinWith ['\n']
    ["// STATES: lamp",
     "=== index ===", "* {lamp == false} Light ~ lamp = true", "* {lamp == true} Up -> top",
     "* {lamp == true} Out -> gate", "* Listen",
     "=== top ===", "* {lamp == false} Leap -> index", "* Wait",
     "=== gate ===", "END",
     "=== crypt ===", "* Rise -> index"]

theorem summary_tells_of_play_tower :
    ∃ script graph, Script.read towerStory = .ok script ∧ script.graph "index" = .ok graph ∧
      (graph.summarize script).TellsOf script "index" ∧
      (graph.summarize script).unreachable = ["crypt"] ∧
      (graph.summarize script).statesPerKnot.map Prod.snd = [1, 2, 1] ∧
      (graph.summarize script).deadEnds = ["top|lamp=true"] ∧
      (graph.summarize script).endings = ["gate|lamp=true"] ∧
      (graph.summarize script).edgeTotal = 3 := by
  have computed : ((Script.read towerStory).toOption.bind fun script =>
      (script.graph "index").toOption.map fun graph =>
        decide ((graph.summarize script).unreachable = ["crypt".toList] ∧
          (graph.summarize script).statesPerKnot.map Prod.snd = [1, 2, 1] ∧
          (graph.summarize script).deadEnds = ["top|lamp=true".toList] ∧
          (graph.summarize script).endings = ["gate|lamp=true".toList] ∧
          (graph.summarize script).edgeTotal = 3)) = some true := by
    decide +kernel
  obtain ⟨script, parsed, computed⟩ := Option.bind_eq_some_iff.mp computed
  obtain ⟨graph, built, figures⟩ := Option.map_eq_some_iff.mp computed
  have parsed := Except.eq_ok_of_toOption parsed
  have built := Except.eq_ok_of_toOption built
  exact ⟨script, graph, parsed, built, (summary_tells_of_play parsed built).2,
    of_decide_eq_true figures⟩

end Knotwork
