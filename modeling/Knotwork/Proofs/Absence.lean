import Knotwork.Proofs.Replay

/-! A variable that is false and one that never came up. Main statement: at two nodes of one knot where
the same variables are true a reader sees the same, and whatever edges they take from there, they see
the same for ever after. -/

namespace Knotwork

namespace State

def SameTruths (first second : State) : Prop :=
  ∀ name, first.find? name = some true ↔ second.find? name = some true

theorem value_eq_true (state : State) (name : Text) :
    state.value name = true ↔ state.find? name = some true := by
  rw [value]
  cases state.find? name <;> simp

theorem sameTruths_iff (first second : State) :
    first.SameTruths second ↔ first.value = second.value := by
  rw [funext_iff]
  apply forall_congr'
  intro name
  rw [Bool.eq_iff_iff, value_eq_true, value_eq_true]

end State

structure Node.Indistinct (one other : Node) : Prop where
  knot : one.knot = other.knot
  truths : one.state.SameTruths other.state

theorem Node.indistinct_of_standsFor {one other : Node} {here there : Position}
    (stands : one.StandsFor here) (otherStands : other.StandsFor there)
    (indistinct : here.Indistinct there) : one.Indistinct other := by
  obtain ⟨_, knot, _, state, _⟩ := stands.fields
  obtain ⟨_, otherKnot, _, otherState, _⟩ := otherStands.fields
  refine ⟨?_, ?_⟩
  · rw [knot, otherKnot, indistinct.knot]
  · rw [State.sameTruths_iff, state, otherState]
    exact indistinct.values

namespace Graph

/-- Edges that a reader cannot tell apart: they read the same, and so do the nodes they lead to. -/
structure LeadAlike (graph : Graph) (first second : Edge) : Prop where
  text : first.text = second.text
  stitch : first.stitch = second.stitch
  targets : ∃ one other, graph.nodes.find? first.target = some one ∧
    graph.nodes.find? second.target = some other ∧ one.Indistinct other

namespace Charts

variable {graph : Graph} {script : Script} {entry : Text} (charts : graph.Charts script entry)

include charts

theorem positions_of_indistinct {one other : Node}
    (registered : ∃ key, graph.nodes.find? key = some one)
    (otherRegistered : ∃ key, graph.nodes.find? key = some other)
    (indistinct : one.Indistinct other) :
    ∃ here there, script.Reachable entry here ∧ one.StandsFor here ∧
      script.Reachable entry there ∧ other.StandsFor there ∧ here.Indistinct there := by
  obtain ⟨key, found⟩ := registered
  obtain ⟨otherKey, otherFound⟩ := otherRegistered
  obtain ⟨here, reachable, stands⟩ := charts.reached key one found
  obtain ⟨there, otherReachable, otherStands⟩ := charts.reached otherKey other otherFound
  obtain ⟨_, knot, _, state, _⟩ := stands.fields
  obtain ⟨_, otherKnot, _, otherState, _⟩ := otherStands.fields
  refine ⟨here, there, reachable, stands, otherReachable, otherStands, ?_, ?_⟩
  · have sameName : here.knot.name = there.knot.name := by
      rw [← knot, ← otherKnot, indistinct.knot]
    have hereFound := reachable.found
    rw [sameName, otherReachable.found] at hereFound
    exact (Option.some.inj hereFound).symm
  · rw [← state, ← otherState]
    exact (State.sameTruths_iff _ _).mp indistinct.truths

theorem edges_lead_alike (plain : script.Plain) {one other : Node}
    (registered : ∃ key, graph.nodes.find? key = some one)
    (otherRegistered : ∃ key, graph.nodes.find? key = some other)
    (indistinct : one.Indistinct other) :
    List.Forall₂ graph.LeadAlike one.edges other.edges := by
  obtain ⟨here, there, reachable, stands, otherReachable, otherStands, same⟩ :=
    charts.positions_of_indistinct registered otherRegistered indistinct
  obtain ⟨key, found⟩ := registered
  obtain ⟨otherKey, otherFound⟩ := otherRegistered
  have offers := charts.offers key one found here reachable stands
  have otherOffers := charts.offers otherKey other otherFound there otherReachable otherStands
  rw [← same.options] at otherOffers
  refine forall₂_of_common offers otherOffers ?_
  intro edge edgeMember second secondMember choice offered offer otherOffer
  obtain ⟨target, targetFound⟩ := charts.closed key one found edge edgeMember
  obtain ⟨otherTarget, otherTargetFound⟩ :=
    charts.closed otherKey other otherFound second secondMember
  obtain ⟨next, arrived, followed, _, arrives, alike⟩ :=
    charts.arrives plain reachable offered offer targetFound
  obtain ⟨otherNext, otherArrived, otherFollowed, _, otherArrives, otherAlike⟩ :=
    charts.arrives plain otherReachable (same.options ▸ offered) otherOffer otherTargetFound
  -- Both nodes take the same choice, so the positions it leads to are as hard to tell apart.
  obtain ⟨_, sameFollowed, nextSame⟩ := same.follow followed
  rw [otherFollowed] at sameFollowed
  cases sameFollowed
  refine ⟨?_, ?_, target, otherTarget, targetFound, otherTargetFound, ?_⟩
  · rw [offer.text, otherOffer.text]
  · rw [offer.stitch, otherOffer.stitch]
  · exact Node.indistinct_of_standsFor arrives otherArrives
      (alike.indistinct.trans (nextSame.trans otherAlike.indistinct.symm))

theorem walks_indistinct (plain : script.Plain) {one other : Node}
    (registered : ∃ key, graph.nodes.find? key = some one)
    (otherRegistered : ∃ key, graph.nodes.find? key = some other)
    (indistinct : one.Indistinct other) (numbers : List Nat) :
    Option.Rel Node.Indistinct (graph.walk? one numbers) (graph.walk? other numbers) := by
  induction numbers generalizing one other with
  | nil => exact .some indistinct
  | cons number rest ih =>
      have edges := charts.edges_lead_alike plain registered otherRegistered indistinct
      have numbered := rel_getElem?_of_forall₂ edges number
      simp only [walk?, step?]
      generalize one.edges[number]? = edge? at numbered
      generalize other.edges[number]? = otherEdge? at numbered
      cases numbered with
      | none => exact .none
      | some alike =>
          obtain ⟨target, otherTarget, found, otherFound, same⟩ := alike.targets
          simp only [Option.bind_eq_bind, Option.bind_some, found, otherFound]
          exact ih ⟨_, found⟩ ⟨_, otherFound⟩ same

end Charts

end Graph

/-- A reader cannot tell a false variable from one that never came up. Two nodes of one knot where the
same variables are true show the same text in the same scene, and are endings alike; their edges,
one by one, have the same text and stitch and lead to nodes of one knot where again the same
variables are true; and so it goes on along every walk. -/
theorem false_reads_as_absent {source : Text} {script : Script} {entry : Text} {graph : Graph}
    (parsed : Script.read source = .ok script) (built : script.graph entry = .ok graph)
    {first second : Text} {one other : Node} (found : graph.nodes.find? first = some one)
    (otherFound : graph.nodes.find? second = some other) (knot : one.knot = other.knot)
    (truths : ∀ name, one.state.find? name = some true ↔ other.state.find? name = some true) :
    one.content = other.content ∧ one.scene = other.scene ∧ one.isEnd = other.isEnd ∧
      List.Forall₂ graph.LeadAlike one.edges other.edges ∧
      ∀ numbers,
        Option.Rel Node.Indistinct (graph.walk? one numbers) (graph.walk? other numbers) := by
  have charts := Script.charts_graph built
  have plain := (Script.sound_of_read parsed).plain
  have indistinct : one.Indistinct other := ⟨knot, truths⟩
  obtain ⟨here, there, _, stands, _, otherStands, same⟩ :=
    charts.positions_of_indistinct ⟨first, found⟩ ⟨second, otherFound⟩ indistinct
  obtain ⟨_, _, scene, _, content, isEnd⟩ := stands.fields
  obtain ⟨_, _, otherScene, _, otherContent, otherIsEnd⟩ := otherStands.fields
  refine ⟨?_, ?_, ?_, ?_, ?_⟩
  · rw [content, otherContent, same.shown]
  · rw [scene, otherScene, same.knot]
  · rw [isEnd, otherIsEnd, same.knot]
  · exact charts.edges_lead_alike plain ⟨first, found⟩ ⟨second, otherFound⟩ indistinct
  · exact charts.walks_indistinct plain ⟨first, found⟩ ⟨second, otherFound⟩ indistinct

def lampStory : Text :=
  Text.joinWith ['\n']
    ["// STATES: door", "=== index ===", "- {lamp != true} Dark.", "- Light.",
     "* {lamp == false} Light ~ lamp = true", "* {lamp == true} Douse ~ lamp = false",
     "* {door == false} Open ~ door = true -> .door", "* {door == true} Leave -> out",
     "=== out ===", "END"]

theorem false_reads_as_absent_lamp :
    ∃ script graph one other, Script.read lampStory = .ok script ∧
      script.graph "index" = .ok graph ∧
      graph.nodes.find? "index|door=false" = some one ∧
      graph.nodes.find? "index|door=false,lamp=false" = some other ∧
      one.knot = other.knot ∧
      (∀ name, one.state.find? name = some true ↔ other.state.find? name = some true) ∧
      one.content = other.content ∧ one.scene = other.scene ∧ one.isEnd = other.isEnd ∧
      List.Forall₂ graph.LeadAlike one.edges other.edges ∧
      ∀ numbers,
        Option.Rel Node.Indistinct (graph.walk? one numbers) (graph.walk? other numbers) := by
  have computed : ((Script.read lampStory).toOption.bind fun script =>
      (script.graph "index").toOption.bind fun graph =>
        (graph.nodes.find? "index|door=false").bind fun one =>
          (graph.nodes.find? "index|door=false,lamp=false").map fun other =>
            (decide (one.knot = other.knot), one.state.entries, other.state.entries)) =
      some (true, [("door".toList, false)], [("door".toList, false), ("lamp".toList, false)]) := by
    decide +kernel
  simp only [Option.bind_eq_some_iff, Option.map_eq_some_iff, Prod.mk.injEq,
    decide_eq_true_eq] at computed
  obtain ⟨script, parsed, graph, built, one, found, other, otherFound, knot, states⟩ := computed
  have read := Except.eq_ok_of_toOption parsed
  have made := Except.eq_ok_of_toOption built
  have truths (name : Text) :
      one.state.find? name = some true ↔ other.state.find? name = some true := by
    rw [← Table.mem_entries_iff, ← Table.mem_entries_iff, states.1, states.2]
    simp
  exact ⟨script, graph, one, other, read, made, found, otherFound, knot, truths,
    false_reads_as_absent read made found otherFound knot truths⟩

end Knotwork
