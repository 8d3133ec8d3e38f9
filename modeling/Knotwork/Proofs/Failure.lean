import Knotwork.Proofs.Replay

/-! Why the graph of a script that was read cannot be built. Main statement: only for want of a knot,
either the entry or one that a reader can be sent to, and whenever there is such a want. -/

namespace Knotwork

theorem Condition.test_of_stored {source : Text} (stored : StoredCondition source) (state : State) :
    ∃ value, Condition.test source state = .ok value := by
  obtain ⟨condition, readable⟩ := stored.readable
  refine ⟨condition.holds state, ?_⟩
  rw [Condition.test, readable]
  rfl

namespace Knot

theorem firstContent_of_stored (state : State) {blocks : List Block}
    (stored : ∀ block ∈ blocks, StoredCondition block.condition) :
    ∃ content, firstContent state blocks = .ok content := by
  induction blocks with
  | nil => exact ⟨[], rfl⟩
  | cons block rest ih =>
      obtain ⟨value, tested⟩ := Condition.test_of_stored (stored block (by simp)) state
      rw [firstContent, tested]
      cases value with
      | true => exact ⟨block.content, rfl⟩
      | false => exact ih fun other member => stored other (List.mem_cons_of_mem _ member)

theorem Sound.enter_ne_error {knot : Knot} (sound : knot.Sound) (state : State)
    (stitch : Option Text) (fault : ParseError) : knot.enter state stitch ≠ .error fault := by
  intro failed
  obtain ⟨content, shown⟩ := firstContent_of_stored state sound.body
  rw [enter, Knot.content, shown] at failed
  cases failed

end Knot

namespace Script

structure Astray (script : Script) (position : Position) (choice : Choice) (target : Text) :
    Prop where
  present : choice ∈ position.knot.choices
  allowed : position.allows choice.condition = true
  named : choice.target = some target
  missing : target ∉ script.knotNames

variable {script : Script} {entry : Text}

theorem Reachable.entry_known {position : Position} (reachable : script.Reachable entry position) :
    entry ∈ script.knotNames := by
  induction reachable with
  | start begins =>
      obtain ⟨found, _⟩ := start?_eq_some.mp begins
      by_contra missing
      rw [knot?_eq_none.mpr missing] at found
      cases found
  | follow _ _ _ ih => exact ih

theorem Reachable.sound (sound : script.Sound) {position : Position}
    (reachable : script.Reachable entry position) : position.knot.Sound :=
  sound.knots position.knot (knot?_eq_some reachable.found).1

theorem Astray.destination (sound : script.Sound) {position : Position}
    (reachable : script.Reachable entry position) {choice : Choice} {target : Text}
    (astray : script.Astray position choice target) :
    choice.destination? position.knot.name = some target := by
  have leads := ((reachable.sound sound).choices choice astray.present).leads
  have nonempty := (leads.target target astray.named).1
  obtain ⟨first, rest, rfl⟩ := List.exists_cons_of_ne_nil nonempty
  rw [Choice.destination?, astray.named]

theorem astray_of_unknown {position : Position} (reachable : script.Reachable entry position)
    {choice : Choice} (present : choice ∈ position.knot.choices)
    (test : Condition.test choice.condition position.state = .ok true) {target : Text}
    (destination : choice.destination? position.knot.name = some target)
    (missing : script.knot? target = none) : script.Astray position choice target := by
  refine ⟨present, (position.allows_iff _).mpr test, ?_, knot?_eq_none.mp missing⟩
  unfold Choice.destination? at destination
  split at destination
  · rename_i named
    rw [named, destination]
  · split at destination
    · cases destination
    · cases destination
      rw [reachable.found] at missing
      cases missing

theorem astray_of_failing (sound : script.Sound) {position : Position}
    (reachable : script.Reachable entry position) {node : Node} (stands : node.StandsFor position)
    {error : StoryError} (failing : (script.moves node).findSome? Move.error? = some error) :
    ∃ choice target, script.Astray position choice target ∧
      error = .unknownKnot target position.knot.name choice.text script.knotNames := by
  rw [moves_eq reachable stands] at failing
  obtain ⟨choice, present, outcome⟩ := script.outcome_of_failing position failing
  cases outcome with
  | unreadable unreadable =>
      have stored := ((reachable.sound sound).choices choice present).condition
      obtain ⟨value, tested⟩ := Condition.test_of_stored stored position.state
      rw [unreadable] at tested
      cases tested
  | unknown test destination missing =>
      exact ⟨choice, _, astray_of_unknown reachable present test destination missing, rfl⟩
  | unshown test followed failed =>
      obtain ⟨name, destination, _⟩ := follow?_eq_some.mp followed
      have offered := mem_options.mpr ⟨present, test, by simp [destination]⟩
      have arrived := reachable.follow offered followed
      exact absurd failed ((arrived.sound sound).enter_ne_error _ _ _)

theorem graph_error_of_sound (sound : script.Sound) {error : StoryError}
    (failed : script.graph entry = .error error) :
    entry ∉ script.knotNames ∧ error = .missingEntry entry script.knotNames ∨
      ∃ position choice target, script.Reachable entry position ∧
        script.Astray position choice target ∧
        error = .unknownKnot target position.knot.name choice.text script.knotNames := by
  have stopped := graph_eq_error_iff.mp failed
  rcases script.explore_cases entry with
    ⟨missing, same⟩ | ⟨knot, fault, found, unshown, _⟩ | ⟨last, searching, ends⟩
  · rw [same] at stopped
    cases stopped
    exact Or.inl ⟨knot?_eq_none.mp missing, rfl⟩
  · have knotSound := sound.knots knot (knot?_eq_some found).1
    exact absurd unshown (knotSound.enter_ne_error _ _ _)
  · have frontier := Frontier.of_searching searching
    generalize script.explore entry = exploration at stopped ends
    cases ends with
    | done => cases stopped
    | @failed visited node waiting _ failing =>
        cases stopped
        have next : node ∈ visited ++ node :: waiting := by simp
        obtain ⟨position, reachable, stands⟩ := frontier.reached node next
        obtain ⟨choice, target, astray, same⟩ := astray_of_failing sound reachable stands failing
        exact Or.inr ⟨position, choice, target, reachable, astray, same⟩

theorem known_of_mem_visited {node : Node} (member : node ∈ (script.explore entry).visited) :
    ∃ knot, script.knot? node.knot = some knot := by
  have known {search : Search} (searching : script.Searching entry search)
      (registered : node ∈ search.registered) : ∃ knot, script.knot? node.knot = some knot := by
    obtain ⟨position, reachable, stands⟩ := (Frontier.of_searching searching).reached node registered
    exact ⟨position.knot, by rw [stands.fields.2.1, reachable.found]⟩
  rcases script.explore_cases entry with ⟨_, same⟩ | ⟨_, _, _, _, same⟩ | ⟨last, searching, ends⟩
  · simp [same] at member
  · simp [same] at member
  · apply known searching
    generalize script.explore entry = exploration at member ends
    cases ends with
    | done => exact List.mem_append_left _ member
    | failed _ =>
        simp only [List.mem_append, List.mem_singleton] at member
        rcases member with old | rfl
        · exact List.mem_append_left _ old
        · simp [Search.registered]

end Script

namespace Graph

variable {graph : Graph} {script : Script} {entry : Text}

theorem Charts.covers (charts : graph.Charts script entry) (plain : script.Plain)
    {position : Position} (reachable : script.Reachable entry position) :
    ∃ node, graph.KeepsUp script entry node position := by
  induction reachable with
  | start begins =>
      obtain ⟨root, start, _, otherBegins, keepsUp⟩ := charts.keepsUp_start
      rw [begins] at otherBegins
      cases otherBegins
      exact ⟨root, keepsUp⟩
  | @follow position next choice _ offered followed ih =>
      obtain ⟨node, keepsUp⟩ := ih
      obtain ⟨number, numbered⟩ := List.mem_iff_getElem?.mp offered
      have stepped := charts.keepsUp_step plain keepsUp number
      have taken : script.step? position number = some next := by
        simp [Script.step?, numbered, followed]
      rw [taken] at stepped
      generalize graph.step? node number = node? at stepped
      cases stepped with
      | some arrived => exact ⟨_, arrived⟩

theorem Charts.not_astray (charts : graph.Charts script entry) (sound : script.Sound)
    {position : Position} (reachable : script.Reachable entry position) {choice : Choice}
    {target : Text} : ¬script.Astray position choice target := by
  intro astray
  have destination := astray.destination sound reachable
  have test := (position.allows_iff _).mp astray.allowed
  have offered : choice ∈ position.options :=
    Script.mem_options.mpr ⟨astray.present, test, by simp [destination]⟩
  -- The choice is offered at the node of the position too, and there every option leads on.
  obtain ⟨node, ⟨key, found⟩, reached, reachedReachable, stands, alike⟩ :=
    charts.covers sound.plain reachable
  rw [← alike.options] at offered
  obtain ⟨number, numbered⟩ := List.mem_iff_getElem?.mp offered
  have offers := charts.offers key node found reached reachedReachable stands
  have offer := rel_getElem?_of_forall₂ offers number
  rw [numbered] at offer
  generalize node.edges[number]? = edge? at offer
  cases offer with
  | some offer =>
      obtain ⟨next, followed, _⟩ := offer.leads
      obtain ⟨name, leads, known, _⟩ := Script.follow?_eq_some.mp followed
      rw [alike.knot, destination] at leads
      cases leads
      rw [Script.knot?_eq_none.mpr astray.missing] at known
      cases known

end Graph

namespace Script

variable {script : Script} {entry : Text}

theorem graph_of_missing_entry (missing : entry ∉ script.knotNames) :
    script.graph entry = .error (.missingEntry entry script.knotNames) := by
  rw [graph_eq_error_iff, explore, knot?_eq_none.mpr missing]

theorem graph_of_astray (sound : script.Sound) {position : Position}
    (reachable : script.Reachable entry position) {choice : Choice} {target : Text}
    (astray : script.Astray position choice target) :
    ∃ named origin text,
      script.graph entry = .error (.unknownKnot named origin text script.knotNames) := by
  cases built : script.graph entry with
  | ok graph => exact absurd astray ((charts_graph built).not_astray sound reachable)
  | error error =>
      rcases graph_error_of_sound sound built with ⟨missing, _⟩ | ⟨_, _, _, _, _, same⟩
      · exact absurd reachable.entry_known missing
      · exact ⟨_, _, _, by rw [same]⟩

theorem graph_of_guided (sound : script.Sound) (known : entry ∈ script.knotNames)
    (guided : ∀ position choice target, script.Reachable entry position →
      ¬script.Astray position choice target) : ∃ graph, script.graph entry = .ok graph := by
  cases built : script.graph entry with
  | ok graph => exact ⟨graph, rfl⟩
  | error error =>
      rcases graph_error_of_sound sound built with
        ⟨missing, _⟩ | ⟨position, choice, target, reachable, astray, _⟩
      · exact absurd known missing
      · exact absurd astray (guided position choice target reachable)

end Script

/-- The graph of a script that was read fails to be built for two reasons only, and whenever there
is one of them: there is no knot of the name of the entry, or a reader can come to a choice that
leads astray, in which case the error tells of such a choice. Every node that was visited has its
knot in the script. -/
theorem graph_fails_for_missing_knots {source : Text} {script : Script}
    (parsed : Script.read source = .ok script) (entry : Text) :
    (script.graph entry = .error (.missingEntry entry script.knotNames) ↔
      entry ∉ script.knotNames) ∧
    ((∃ target origin text available,
        script.graph entry = .error (.unknownKnot target origin text available)) ↔
      entry ∈ script.knotNames ∧ ∃ position choice target,
        script.Reachable entry position ∧ script.Astray position choice target) ∧
    (∀ target origin text available,
      script.graph entry = .error (.unknownKnot target origin text available) →
      available = script.knotNames ∧ ∃ position choice,
        script.Reachable entry position ∧ script.Astray position choice target ∧
        origin = position.knot.name ∧ text = choice.text) ∧
    (entry ∈ script.knotNames → (∀ position choice target, script.Reachable entry position →
      ¬script.Astray position choice target) → ∃ graph, script.graph entry = .ok graph) ∧
    (∀ error, script.graph entry = .error error →
      error = .missingEntry entry script.knotNames ∨
        ∃ target origin text, error = .unknownKnot target origin text script.knotNames) ∧
    ∀ node ∈ (script.explore entry).visited, ∃ knot, script.knot? node.knot = some knot := by
  have sound := Script.sound_of_read parsed
  refine ⟨?_, ?_, ?_, ?_, ?_, ?_⟩
  · constructor
    · intro failed
      rcases Script.graph_error_of_sound sound failed with ⟨missing, _⟩ | ⟨_, _, _, _, _, same⟩
      · exact missing
      · cases same
    · exact Script.graph_of_missing_entry
  · constructor
    · rintro ⟨target, origin, text, available, failed⟩
      rcases Script.graph_error_of_sound sound failed with
        ⟨_, same⟩ | ⟨position, choice, target, reachable, astray, _⟩
      · cases same
      · exact ⟨reachable.entry_known, position, choice, target, reachable, astray⟩
    · rintro ⟨_, position, choice, target, reachable, astray⟩
      obtain ⟨named, origin, text, failed⟩ := Script.graph_of_astray sound reachable astray
      exact ⟨named, origin, text, script.knotNames, failed⟩
  · intro target origin text available failed
    rcases Script.graph_error_of_sound sound failed with
      ⟨_, same⟩ | ⟨position, choice, target, reachable, astray, same⟩
    · cases same
    · cases same
      exact ⟨rfl, position, choice, reachable, astray, rfl, rfl⟩
  · exact Script.graph_of_guided sound
  · intro error failed
    rcases Script.graph_error_of_sound sound failed with
      ⟨_, same⟩ | ⟨position, choice, target, _, _, same⟩
    · exact Or.inl same
    · exact Or.inr ⟨target, _, _, same⟩
  · intro node member
    exact Script.known_of_mem_visited member

def lockedStory : Text :=
  Text.joinWith ['\n']
    ["=== index ===", "* In -> hall", "* {ghost == true} Fall -> pit",
     "=== hall ===", "* {key == true} Open -> vault", "* Take ~ key = true"]

theorem graph_fails_for_missing_knots_locked :
    ∃ script, Script.read lockedStory = .ok script ∧
      script.graph "index" = .error (.unknownKnot "vault" "hall" "Open" ["index", "hall"]) ∧
      (∃ position choice, script.Reachable "index" position ∧
        script.Astray position choice "vault" ∧ position.knot.name = "hall" ∧
        choice.text = "Open") ∧
      script.graph "vault" = .error (.missingEntry "vault" ["index", "hall"]) := by
  have computed : ((Script.read lockedStory).toOption.map fun script =>
      ((script.explore "index").error?, script.knotNames)) =
        some (some (StoryError.unknownKnot "vault" "hall" "Open" ["index", "hall"]),
          (["index", "hall"] : List Text)) := by
    decide +kernel
  cases parsed : Script.read lockedStory with
  | error error =>
      rw [parsed] at computed
      cases computed
  | ok script =>
      rw [parsed] at computed
      simp only [Except.toOption, Option.map_some, Option.some.injEq, Prod.mk.injEq] at computed
      obtain ⟨stopped, names⟩ := computed
      have failed := Script.graph_eq_error_iff.mpr stopped
      have atIndex := graph_fails_for_missing_knots parsed "index"
      have atVault := graph_fails_for_missing_knots parsed "vault"
      obtain ⟨_, position, choice, reachable, astray, origin, text⟩ :=
        atIndex.2.2.1 _ _ _ _ failed
      refine ⟨script, rfl, failed, ⟨position, choice, reachable, astray, origin.symm, text.symm⟩, ?_⟩
      have missing : "vault".toList ∉ script.knotNames := by
        rw [names]
        decide
      rw [← names]
      exact atVault.1.mpr missing

end Knotwork
