import Knotwork.Proofs.Failure
import Mathlib.Data.List.Perm.Basic

/-! The order of the choices in a knot. Main statement: it fixes the order of a node's edges, and has
no part in which nodes there are. The two searches go different ways, so they are not compared turn
by turn; both find what a reader can come to, and that does not depend on the order. -/

namespace Knotwork

structure Knot.Shuffled (one other : Knot) : Prop where
  choices : one.choices.Perm other.choices
  rest : { one with choices := other.choices } = other

structure Script.Shuffled (first second : Script) : Prop where
  metadata : first.metadata = second.metadata
  declarations : first.declarations = second.declarations
  knots : List.Forall₂ Knot.Shuffled first.knots second.knots

structure Position.Shuffled (one other : Position) : Prop where
  knot : one.knot.Shuffled other.knot
  state : one.state = other.state

/-- Nodes that show a reader the same: they may differ in the order of their variables and of their
edges, and in the anchor under which they were found. -/
structure Node.Shuffled (one other : Node) : Prop where
  id : one.id = other.id
  knot : one.knot = other.knot
  scene : one.scene = other.scene
  state : one.state.Agree other.state
  content : one.content = other.content
  isEnd : one.isEnd = other.isEnd
  edges : one.edges.Perm other.edges

namespace Knot.Shuffled

variable {one other : Knot}

theorem symm (shuffled : one.Shuffled other) : other.Shuffled one := by
  refine ⟨shuffled.choices.symm, ?_⟩
  rw [← shuffled.rest]

theorem fields (shuffled : one.Shuffled other) :
    one.name = other.name ∧ one.scene = other.scene ∧ one.body = other.body ∧
      one.isEnd = other.isEnd := by
  rw [← shuffled.rest]
  exact ⟨rfl, rfl, rfl, rfl⟩

theorem sound (shuffled : one.Shuffled other) (sound : one.Sound) : other.Sound := by
  obtain ⟨name, _, body, _⟩ := shuffled.fields
  refine ⟨name ▸ sound.name, body ▸ sound.body, ?_⟩
  intro choice member
  exact sound.choices choice (shuffled.choices.mem_iff.mpr member)

end Knot.Shuffled

namespace Position.Shuffled

variable {one other : Position}

theorem allows (shuffled : one.Shuffled other) (condition : Text) :
    one.allows condition = other.allows condition := by
  unfold Position.allows
  rw [shuffled.state]

theorem shown (shuffled : one.Shuffled other) : one.shown = other.shown := by
  unfold Position.shown
  simp only [shuffled.allows, shuffled.knot.fields.2.2.1]

theorem options (shuffled : one.Shuffled other) : one.options.Perm other.options := by
  unfold Position.options
  simp only [shuffled.allows, shuffled.knot.fields.1]
  exact shuffled.knot.choices.filter _

theorem identity (shuffled : one.Shuffled other) :
    Identity.encode one.knot.name one.state = Identity.encode other.knot.name other.state := by
  rw [shuffled.knot.fields.1, shuffled.state]

end Position.Shuffled

namespace Script.Shuffled

variable {first second : Script}

theorem symm (shuffled : first.Shuffled second) : second.Shuffled first := by
  refine ⟨shuffled.metadata.symm, shuffled.declarations.symm, ?_⟩
  exact List.Forall₂.flip (shuffled.knots.imp fun _ _ knot => knot.symm)

theorem knotNames_eq (shuffled : first.Shuffled second) : first.knotNames = second.knotNames := by
  have names := shuffled.knots.imp fun _ _ knot => knot.fields.1
  rw [knotNames, knotNames, ← List.forall₂_eq_eq_eq, List.forall₂_map_left_iff,
    List.forall₂_map_right_iff]
  exact names

theorem knot? (shuffled : first.Shuffled second) {name : Text} {knot : Knot}
    (found : first.knot? name = some knot) :
    ∃ twin, second.knot? name = some twin ∧ knot.Shuffled twin := by
  have knots := shuffled.knots
  unfold Script.knot? at found ⊢
  generalize first.knots = ones at knots found
  generalize second.knots = others at knots
  induction knots with
  | nil => cases found
  | @cons one other _ _ head _ ih =>
      rw [List.find?_cons] at found ⊢
      rw [head.fields.1] at found
      by_cases here : other.name = name
      · simp only [here, decide_true, Option.some.injEq] at found ⊢
        exact ⟨other, rfl, found ▸ head⟩
      · simp only [here, decide_false] at found ⊢
        exact ih found

theorem sound (shuffled : first.Shuffled second) (sound : first.Sound) : second.Sound := by
  refine ⟨shuffled.declarations ▸ sound.declared, ?_⟩
  intro knot member
  obtain ⟨twin, found, same⟩ := shuffled.symm.knot? (knot?_eq_some_iff.mpr ⟨member, rfl⟩)
  exact same.symm.sound (sound.knots twin (knot?_eq_some found).1)

theorem start? (shuffled : first.Shuffled second) {entry : Text} {position : Position}
    (begins : first.start? entry = some position) :
    ∃ twin, second.start? entry = some twin ∧ position.Shuffled twin := by
  obtain ⟨found, initial⟩ := start?_eq_some.mp begins
  obtain ⟨knot, twinFound, same⟩ := shuffled.knot? found
  refine ⟨⟨knot, position.state⟩, start?_eq_some.mpr ⟨twinFound, ?_⟩, same, rfl⟩
  rw [← shuffled.declarations]
  exact initial

theorem follow? (shuffled : first.Shuffled second) {position twin next : Position}
    (alike : position.Shuffled twin) {choice : Choice}
    (followed : first.follow? position choice = some next) :
    ∃ other, second.follow? twin choice = some other ∧ next.Shuffled other := by
  obtain ⟨name, destination, found, arrived⟩ := follow?_eq_some.mp followed
  obtain ⟨knot, twinFound, same⟩ := shuffled.knot? found
  obtain ⟨sameName, sameScene, _⟩ := alike.knot.fields
  refine ⟨⟨knot, next.state⟩, follow?_eq_some.mpr ⟨name, ?_, twinFound, ?_⟩, same, rfl⟩
  · rw [← sameName]
    exact destination
  · rw [arrived, sameScene, same.fields.2.1, alike.state]
    simp only [arrive, shuffled.declarations]

theorem reachable (shuffled : first.Shuffled second) {entry : Text} {position : Position}
    (reachable : first.Reachable entry position) :
    ∃ twin, second.Reachable entry twin ∧ position.Shuffled twin := by
  induction reachable with
  | start begins =>
      obtain ⟨twin, twinBegins, alike⟩ := shuffled.start? begins
      exact ⟨twin, .start twinBegins, alike⟩
  | follow _ offered followed ih =>
      obtain ⟨twin, twinReachable, alike⟩ := ih
      obtain ⟨next, twinFollowed, nextAlike⟩ := shuffled.follow? alike followed
      have twinOffered := alike.options.mem_iff.mp offered
      exact ⟨next, twinReachable.follow twinOffered twinFollowed, nextAlike⟩

theorem astray (shuffled : first.Shuffled second) {position twin : Position}
    (alike : position.Shuffled twin) {choice : Choice} {target : Text}
    (astray : first.Astray position choice target) : second.Astray twin choice target := by
  refine ⟨alike.knot.choices.mem_iff.mp astray.present, ?_, astray.named, ?_⟩
  · rw [← alike.allows]
    exact astray.allowed
  · rw [← shuffled.knotNames_eq]
    exact astray.missing

theorem builds (shuffled : first.Shuffled second) (sound : first.Sound) {entry : Text}
    {graph : Graph} (built : first.graph entry = .ok graph) :
    ∃ twin, second.graph entry = .ok twin := by
  have charts := charts_graph built
  apply graph_of_guided (shuffled.sound sound)
  · obtain ⟨start, _, begins, _⟩ := charts.rooted
    rw [← shuffled.knotNames_eq]
    exact (Reachable.start begins).entry_known
  -- The searches may meet different faulty choices, but if one meets any, so does the other.
  · intro position choice target reachable astray
    obtain ⟨twin, twinReachable, alike⟩ := shuffled.symm.reachable reachable
    exact charts.not_astray sound twinReachable (shuffled.symm.astray alike astray)

theorem edge_eq (shuffled : first.Shuffled second) {position twin reached : Position}
    (alike : position.Shuffled twin) (same : reached.Alike twin) {edge other : Edge}
    {choice : Choice} (offer : first.Offers position edge choice)
    (twinOffer : second.Offers reached other choice) : edge = other := by
  obtain ⟨next, followed, leads⟩ := offer.leads
  obtain ⟨last, lastFollowed, lastLeads⟩ := twinOffer.leads
  obtain ⟨middle, middleFollowed, nextAlike⟩ := shuffled.follow? alike followed
  obtain ⟨finish, finishFollowed, lastAlike⟩ := same.follow lastFollowed
  rw [middleFollowed] at finishFollowed
  cases finishFollowed
  have target : edge.target = other.target := by
    rw [leads, lastLeads, nextAlike.identity, lastAlike.knot]
    exact (Identity.encode_congr _ lastAlike.state).symm
  obtain ⟨_, _, _⟩ := edge
  obtain ⟨_, _, _⟩ := other
  simp only [Edge.mk.injEq]
  exact ⟨offer.text.trans twinOffer.text.symm, target, offer.stitch.trans twinOffer.stitch.symm⟩

theorem node (shuffled : first.Shuffled second) (sound : first.Sound) {entry : Text}
    {graph twinGraph : Graph} (charts : graph.Charts first entry)
    (twinCharts : twinGraph.Charts second entry) {key : Text} {node : Node}
    (found : graph.nodes.find? key = some node) :
    ∃ twin, twinGraph.nodes.find? key = some twin ∧ node.Shuffled twin := by
  obtain ⟨position, reachable, stands⟩ := charts.reached key node found
  obtain ⟨other, otherReachable, alike⟩ := shuffled.reachable reachable
  obtain ⟨twin, ⟨twinKey, twinFound⟩, reached, reachedReachable, twinStands, same⟩ :=
    twinCharts.covers (shuffled.sound sound).plain otherReachable
  obtain ⟨id, knot, scene, state, content, isEnd⟩ := stands.fields
  obtain ⟨twinId, twinKnot, twinScene, twinState, twinContent, twinIsEnd⟩ := twinStands.fields
  obtain ⟨sameName, sameScene, _, sameIsEnd⟩ := alike.knot.fields
  have ids : node.id = twin.id := by
    rw [id, twinId, alike.identity, same.knot]
    exact (Identity.encode_congr _ same.state).symm
  have keys : twinKey = key := by
    rw [← twinCharts.keyed twinKey twin twinFound, ← ids, charts.keyed key node found]
  refine ⟨twin, keys ▸ twinFound, ids, ?_, ?_, ?_, ?_, ?_, ?_⟩
  · rw [knot, twinKnot, sameName, same.knot]
  · rw [scene, twinScene, sameScene, same.knot]
  · rw [state, twinState, alike.state]
    exact same.state.symm
  · rw [content, twinContent, alike.shown, same.shown]
  · rw [isEnd, twinIsEnd, sameIsEnd, same.knot]
  · have offers := charts.offers key node found position reachable stands
    have twinOffers := twinCharts.offers twinKey twin twinFound reached reachedReachable twinStands
    rw [same.options] at twinOffers
    refine perm_of_forall₂ ?_ offers alike.options twinOffers
    intro edge twinEdge choice offer twinOffer
    exact shuffled.edge_eq alike same offer twinOffer

end Script.Shuffled

/-- The order of the choices within the knots of a script that was read decides the order of edges,
and never which nodes exist: a graph can be built in either order or in neither, and then both have
the same entry and the same identities, under which the nodes show a reader the same. -/
theorem choice_order_keeps_nodes {source : Text} {first second : Script}
    (parsed : Script.read source = .ok first) (shuffled : first.Shuffled second) (entry : Text) :
    ((∃ graph, first.graph entry = .ok graph) ↔ ∃ graph, second.graph entry = .ok graph) ∧
    ∀ one other, first.graph entry = .ok one → second.graph entry = .ok other →
      one.metadata = other.metadata ∧ one.entry = other.entry ∧
      (∀ key, key ∈ one.nodes.keys ↔ key ∈ other.nodes.keys) ∧
      ∀ key node twin, one.nodes.find? key = some node → other.nodes.find? key = some twin →
        node.Shuffled twin := by
  have sound := Script.sound_of_read parsed
  have twinSound := shuffled.sound sound
  constructor
  · constructor
    · rintro ⟨graph, built⟩
      exact shuffled.builds sound built
    · rintro ⟨graph, built⟩
      exact shuffled.symm.builds twinSound built
  · intro one other built twinBuilt
    have charts := Script.charts_graph built
    have twinCharts := Script.charts_graph twinBuilt
    refine ⟨?_, ?_, ?_, ?_⟩
    · rw [(Script.graph_eq_ok built).2, (Script.graph_eq_ok twinBuilt).2]
      exact shuffled.metadata
    · rw [(Script.graph_eq_ok built).2, (Script.graph_eq_ok twinBuilt).2]
      simp only [shuffled.declarations]
    · intro key
      rw [Table.mem_keys_iff, Table.mem_keys_iff, Option.isSome_iff_exists,
        Option.isSome_iff_exists]
      constructor
      · rintro ⟨node, found⟩
        obtain ⟨twin, twinFound, _⟩ := shuffled.node sound charts twinCharts found
        exact ⟨twin, twinFound⟩
      · rintro ⟨node, found⟩
        obtain ⟨twin, twinFound, _⟩ := shuffled.symm.node twinSound twinCharts charts found
        exact ⟨twin, twinFound⟩
    · intro key node twin found twinFound
      obtain ⟨expected, expectedFound, same⟩ := shuffled.node sound charts twinCharts found
      rw [twinFound] at expectedFound
      cases expectedFound
      exact same

namespace Script

def reversed (script : Script) : Script :=
  { script with
    knots := script.knots.map fun knot => { knot with choices := knot.choices.reverse }
    distinct := by simpa [Function.comp_def] using script.distinct }

theorem shuffled_reversed (script : Script) : script.Shuffled script.reversed := by
  refine ⟨rfl, rfl, ?_⟩
  rw [reversed, List.forall₂_map_right_iff, List.forall₂_same]
  intro knot _
  exact ⟨(List.reverse_perm knot.choices).symm, rfl⟩

end Script

def doorsStory : Text :=
  Text.joinWith ['\n']
    ["=== index ===", "* Left ~ a = true -> .left", "* Right ~ b = true -> .right",
     "* {a == true && b == true} On -> end", "=== end ===", "END"]

theorem choice_order_keeps_nodes_doors :
    ∃ script one other, Script.read doorsStory = .ok script ∧ script.Shuffled script.reversed ∧
      script.graph "index" = .ok one ∧ script.reversed.graph "index" = .ok other ∧
      one.nodes.keys ≠ other.nodes.keys ∧ one.nodes.keys.length = 5 ∧ one.entry = other.entry ∧
      (∀ key, key ∈ one.nodes.keys ↔ key ∈ other.nodes.keys) ∧
      ∀ key node twin, one.nodes.find? key = some node → other.nodes.find? key = some twin →
        node.Shuffled twin := by
  have computed : ((Script.read doorsStory).toOption.bind fun script =>
      (script.graph "index").toOption.bind fun one =>
        (script.reversed.graph "index").toOption.map fun other =>
          (one.nodes.keys.length, decide (one.nodes.keys = other.nodes.keys))) =
        some (5, false) := by
    decide +kernel
  simp only [Option.bind_eq_some_iff, Option.map_eq_some_iff, Prod.mk.injEq,
    decide_eq_false_iff_not] at computed
  obtain ⟨script, parsed, one, built, other, twinBuilt, five, differ⟩ := computed
  have parsed := Except.eq_ok_of_toOption parsed
  have built := Except.eq_ok_of_toOption built
  have twinBuilt := Except.eq_ok_of_toOption twinBuilt
  have shuffled := script.shuffled_reversed
  obtain ⟨_, keeps⟩ := choice_order_keeps_nodes parsed shuffled "index"
  obtain ⟨_, entry, keys, nodes⟩ := keeps one other built twinBuilt
  exact ⟨script, one, other, parsed, shuffled, built, twinBuilt, differ, five, entry, keys, nodes⟩

end Knotwork
