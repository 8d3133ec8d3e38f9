import Knotwork.Proofs.Exploration

/-! The search through a script ends. Main statement: no node is registered twice, whatever the names
in a script are and however often identities collide, so there are no more turns than knots with
every declared variable false or true and every other one absent, false or true. -/

namespace Knotwork

namespace Script

theorem toFinset_undeclared (script : Script) :
    script.undeclared.toFinset = script.assigned.toFinset \ script.declarations.names.toFinset := by
  ext name
  simp [undeclared]

theorem capacity_eq_card (script : Script) :
    script.capacity =
      script.knots.length * 2 ^ script.declarations.names.toFinset.card *
        3 ^ (script.assigned.toFinset \ script.declarations.names.toFinset).card := by
  rw [capacity_eq, ← toFinset_undeclared, List.toFinset_card_of_nodup script.nodup_undeclared,
    List.toFinset_card_of_nodup script.declarations.nodup_names]

variable {script : Script} {entry : Text}

theorem Searching.turn {search next : Search} (searching : script.Searching entry search)
    (turn : search.Turn script next) : script.Searching entry next := by
  obtain ⟨knot, root, found, entered, turns⟩ := searching
  exact ⟨knot, root, found, entered, turns.tail turn⟩

theorem Searching.length_le {search : Search} (searching : script.Searching entry search) :
    search.registered.length ≤ script.capacity := by
  have frontier := Frontier.of_searching searching
  exact length_le_capacity frontier.distinct frontier.reached

end Script

namespace Search

theorem Turn.length_visited {script : Script} {search next : Search}
    (turn : search.Turn script next) : next.visited.length = search.visited.length + 1 := by
  cases turn with
  | follow _ => simp

theorem no_endless_turns {script : Script} {entry : Text} {moments : Nat → Search}
    (begins : script.Searching entry (moments 0)) :
    ¬∀ number, (moments number).Turn script (moments (number + 1)) := by
  intro turns
  have searching (number : Nat) : script.Searching entry (moments number) := by
    induction number with
    | zero => exact begins
    | succ number ih => exact ih.turn (turns number)
  have visits (number : Nat) :
      (moments number).visited.length = (moments 0).visited.length + number := by
    induction number with
    | zero => rfl
    | succ number ih => rw [(turns number).length_visited, ih, Nat.add_assoc]
  -- Every turn visits one more node, and there are no more of them than the capacity.
  have bound := (searching (script.capacity + 1)).length_le
  rw [registered, List.length_append, visits] at bound
  omega

end Search

/-- The search through a script terminates: it never registers two nodes of one identity, so every
node is visited once at most; it cannot go on for ever; an exploration is its end, in which no node
waits or a choice failed; and the nodes of a graph are those visited, each once, of which there are
no more than knots times the values of the variables. -/
theorem search_terminates (script : Script) (entry : Text) :
    (∀ search, script.Searching entry search → (search.registered.map Node.id).Nodup) ∧
    (∀ moments : Nat → Search, script.Searching entry (moments 0) →
      ¬∀ number, (moments number).Turn script (moments (number + 1))) ∧
    ((∃ search, script.Searching entry search) →
      ∃ last, script.Searching entry last ∧ last.Ends script (script.explore entry)) ∧
    ∀ graph, script.graph entry = .ok graph →
      script.Searching entry ⟨(script.explore entry).visited, []⟩ ∧
      graph.nodes.keys = (script.explore entry).visited.map Node.id ∧ graph.nodes.keys.Nodup ∧
      graph.nodes.size ≤
        script.knots.length * 2 ^ script.declarations.names.toFinset.card *
          3 ^ (script.assigned.toFinset \ script.declarations.names.toFinset).card := by
  refine ⟨?_, ?_, ?_, ?_⟩
  · intro search searching
    exact (Frontier.of_searching searching).distinct
  · intro moments begins
    exact Search.no_endless_turns begins
  · rintro ⟨search, knot, root, found, entered, _⟩
    rcases script.explore_cases entry with ⟨missing, _⟩ | ⟨other, fault, same, failed, _⟩ | ended
    · rw [missing] at found
      cases found
    · rw [found] at same
      cases same
      rw [entered] at failed
      cases failed
    · exact ended
  · intro graph built
    obtain ⟨finished, rfl⟩ := Script.graph_eq_ok built
    have searching := Script.searching_explore finished
    have entries := (Frontier.of_searching searching).entries_eq
    have bound := searching.length_le
    refine ⟨searching, ?_, Table.distinct _, ?_⟩
    · rw [Table.keys, entries, List.map_map]
      rfl
    · rw [Script.capacity_eq_card, Search.registered, List.append_nil] at bound
      rw [Table.size, entries, List.length_map]
      exact bound

def mirrorScript : Script where
  knots :=
    [{ name := "hall"
       choices :=
         [{ text := "Two", changes := [⟨"a", true⟩, ⟨"b", true⟩] },
          { text := "One", changes := [⟨"a=true,b", true⟩] }] }]

theorem search_terminates_mirror :
    ∃ graph, mirrorScript.graph "hall" = .ok graph ∧
      Identity.encode "hall" (Table.ofPairs [("a", true), ("b", true)]) =
        Identity.encode "hall" (Table.ofPairs [("a=true,b", true)]) ∧
      graph.nodes.size = 3 ∧
      ((Search.mk (mirrorScript.explore "hall").visited []).registered.map Node.id).Nodup ∧
      graph.nodes.keys = (mirrorScript.explore "hall").visited.map Node.id ∧
      graph.nodes.size ≤ 1 * 2 ^ 0 * 3 ^ 3 := by
  have computed : (mirrorScript.graph "hall").toOption.map (·.nodes.size) = some 3 := by
    decide +kernel
  cases built : mirrorScript.graph "hall" with
  | error error =>
      rw [built] at computed
      cases computed
  | ok graph =>
      rw [built] at computed
      obtain ⟨once, _, _, charted⟩ := search_terminates mirrorScript "hall"
      obtain ⟨searching, keys, _, bound⟩ := charted graph built
      have counted : (mirrorScript.assigned.toFinset \
          mirrorScript.declarations.names.toFinset).card = 3 := by decide
      rw [counted] at bound
      exact ⟨graph, rfl, by decide, Option.some.inj computed, once _ searching, keys, bound⟩

end Knotwork
