import Knotwork.Proofs.Passages
import Mathlib.Data.List.Find

/-! The title of a story that is compiled with metadata for what its script leaves open. The defaults
stand first, and only the spelling of a key tells whether the script has it too, while a title is found
under any spelling. Main statement: the title of the script stays exactly if the first title among the
defaults, read with the values of the script where the keys are spelled alike, is the same. -/

namespace Knotwork

namespace Table

variable {α : Type} {table : Table α} {key : Text} {value : α} {rest : List (Text × α)}

def overlaid (table : Table α) (pairs : List (Text × α)) : List (Text × α) :=
  table.entries.map fun entry => (entry.1, (pairs.lookup entry.1).getD entry.2)

theorem overlaid_insert_of_mem (present : key ∈ table.keys) (absent : rest.lookup key = none) :
    (table.insert key value).overlaid rest = table.overlaid ((key, value) :: rest) := by
  rw [overlaid, overlaid, entries_insert_of_mem present, List.map_map]
  apply List.map_congr_left
  intro entry _
  simp only [Function.comp_apply, lookup_cons_eq]
  split
  · rename_i here
    simp [here, absent]
  · rfl

theorem overlaid_insert_of_not_mem (new : key ∉ table.keys) (absent : rest.lookup key = none) :
    (table.insert key value).overlaid rest =
      table.overlaid ((key, value) :: rest) ++ [(key, value)] := by
  have others : ∀ entry ∈ table.entries, (entry.1, (rest.lookup entry.1).getD entry.2) =
      (entry.1, (((key, value) :: rest).lookup entry.1).getD entry.2) := by
    intro entry member
    have other : entry.1 ≠ key := by
      rintro rfl
      exact new (List.mem_map_of_mem member)
    rw [lookup_cons_eq, if_neg other]
  rw [overlaid, overlaid, entries_insert_of_not_mem new, List.map_append,
    List.map_congr_left others, List.map_singleton, absent]
  rfl

theorem entries_insertAll (table : Table α) {pairs : List (Text × α)}
    (distinct : (pairs.map Prod.fst).Nodup) :
    (table.insertAll pairs).entries =
      table.overlaid pairs ++ pairs.filter (·.1 ∉ table.keys) := by
  induction pairs generalizing table with
  | nil => simp [insertAll, overlaid]
  | cons pair rest ih =>
      obtain ⟨key, value⟩ := pair
      simp only [List.map_cons, List.nodup_cons] at distinct
      have absent : rest.lookup key = none := by
        rw [List.lookup_eq_none_iff]
        intro entry member
        exact bne_iff_ne.mpr fun same => distinct.1 (same ▸ List.mem_map_of_mem member)
      have step := ih (table.insert key value) distinct.2
      by_cases present : key ∈ table.keys
      · rw [overlaid_insert_of_mem present absent, keys_insert_of_mem present] at step
        rw [List.filter_cons_of_neg (by simpa using present)]
        exact step
      · have fresh : rest.filter (fun entry => decide (entry.1 ∉ (table.insert key value).keys)) =
            rest.filter (fun entry => decide (entry.1 ∉ table.keys)) := by
          apply List.filter_congr
          intro entry member
          have other : entry.1 ≠ key := by
            rintro rfl
            exact distinct.1 (List.mem_map_of_mem member)
          simp [keys_insert_of_not_mem present, other]
        rw [overlaid_insert_of_not_mem present absent, fresh] at step
        rw [List.filter_cons_of_pos (by simpa using present), List.append_cons]
        exact step

theorem ofPairs_entries (table : Table α) : ofPairs table.entries = table := by
  have same := entries_ofPairs_of_nodup table.entries table.distinct
  generalize ofPairs table.entries = other at same
  cases other
  cases same
  rfl

end Table

namespace Graph

def isTitle (member : Text × Text) : Bool := isTitleKey member.1 && decide (member.2 ≠ [])

theorem title_eq (metadata : Table Text) :
    title metadata = ((metadata.entries.find? isTitle).map Prod.snd).getD "Untitled" := rfl

variable (defaults own : Table Text)

theorem find?_isTitle_filter
    (none : (defaults.overlaid own.entries).find? isTitle = none) :
    (own.entries.filter (·.1 ∉ defaults.keys)).find? isTitle = own.entries.find? isTitle := by
  rw [List.find?_filter]
  apply List.find?_congr
  rintro ⟨key, value⟩ member
  by_cases present : key ∈ defaults.keys
  · obtain ⟨entry, defaulted, same⟩ := List.mem_map.mp present
    have stands : (key, value) ∈ defaults.overlaid own.entries := by
      refine List.mem_map.mpr ⟨entry, defaulted, ?_⟩
      have found : own.entries.lookup key = some value :=
        (Table.mem_entries_iff own key value).mp member
      rw [same, found]
      rfl
    have untitled : isTitle (key, value) = false := by
      simpa using List.find?_eq_none.mp none _ stands
    simp [untitled]
  · simp [present]

theorem title_insertAll :
    title (defaults.insertAll own.entries) =
      (((defaults.overlaid own.entries).find? isTitle).map Prod.snd).getD (title own) := by
  rw [title_eq, Table.entries_insertAll defaults own.distinct, List.find?_append]
  cases first : (defaults.overlaid own.entries).find? isTitle with
  | none =>
      rw [find?_isTitle_filter defaults own first]
      rfl
  | some member => rfl

theorem title_insertAll_eq_iff :
    title (defaults.insertAll own.entries) = title own ↔
      ∀ first, (defaults.overlaid own.entries).find? isTitle = some first → first.2 = title own := by
  rw [title_insertAll]
  cases (defaults.overlaid own.entries).find? isTitle with
  | none => simp
  | some member => simp

theorem title_insertAll_of_spelled
    (spelled : ∀ key ∈ defaults.keys, isTitleKey key = true → own.find? key = some (title own)) :
    title (defaults.insertAll own.entries) = title own := by
  rw [title_insertAll_eq_iff]
  intro first found
  obtain ⟨⟨key, value⟩, member, rfl⟩ := List.mem_map.mp (List.mem_of_find?_eq_some found)
  have titled := List.find?_some found
  rw [isTitle, Bool.and_eq_true] at titled
  have same : own.entries.lookup key = some (title own) :=
    spelled key (List.mem_map_of_mem member) titled.1
  rw [same]
  rfl

end Graph

theorem compile_with_defaults {source entry : Text} {validate : Bool} {graph : Graph}
    (compiled : compile source { entry, validate } = .ok graph) (defaults : Table Text) :
    compile source { entry, validate, defaults } = .ok (graph.withDefaults defaults) := by
  obtain ⟨script, base, parsed, built, rfl⟩ := compile_eq_ok compiled
  have metadata : Table.empty.insertAll base.metadata.entries = base.metadata :=
    Table.ofPairs_entries base.metadata
  unfold compile
  rw [parsed]
  show script.compile { entry, validate, defaults } = _
  rw [Script.compile_eq parsed, built]
  simp [Graph.withDefaults, metadata, Except.map]

/-- A story compiles with any defaults if it compiles without. Its title is then the first one among
the defaults, read with the values of the script where the keys are spelled alike, and the script's own
only behind it. So the title of the script stays exactly if that first title is the same or there is
none, as it is where the defaults have titles only under keys that give the script its title. -/
theorem title_stays_iff_defaults_agree {source entry : Text} {validate : Bool} {graph : Graph}
    (compiled : compile source { entry, validate } = .ok graph) (defaults : Table Text) :
    ∃ merged, compile source { entry, validate, defaults } = .ok merged ∧
      Graph.title merged.metadata =
        (((defaults.overlaid graph.metadata.entries).find? Graph.isTitle).map Prod.snd).getD
          (Graph.title graph.metadata) ∧
      (Graph.title merged.metadata = Graph.title graph.metadata ↔
        ∀ first, (defaults.overlaid graph.metadata.entries).find? Graph.isTitle = some first →
          first.2 = Graph.title graph.metadata) ∧
      ((∀ key ∈ defaults.keys, isTitleKey key = true →
          graph.metadata.find? key = some (Graph.title graph.metadata)) →
        Graph.title merged.metadata = Graph.title graph.metadata) := by
  refine ⟨_, compile_with_defaults compiled defaults, ?_, ?_, ?_⟩
  · exact Graph.title_insertAll defaults graph.metadata
  · exact Graph.title_insertAll_eq_iff defaults graph.metadata
  · exact Graph.title_insertAll_of_spelled defaults graph.metadata

def cottageStory : Text :=
  Text.joinWith ['\n'] ["// Title: Own", "=== index ===", "Hi.", "END"]

theorem title_stays_iff_defaults_agree_cottage :
    ∃ graph merged, compile cottageStory = .ok graph ∧
      compile cottageStory
        { defaults := Table.ofPairs [("author", "Anon"), ("Title", "House")] } = .ok merged ∧
      Graph.title graph.metadata = "Own".toList ∧
      Graph.title merged.metadata = Graph.title graph.metadata := by
  have computed : (compile cottageStory).toOption.map (fun graph => graph.metadata.entries) =
      some [("Title".toList, "Own".toList)] := by
    decide +kernel
  obtain ⟨graph, compiled, entries⟩ := Option.map_eq_some_iff.mp computed
  have compiled := Except.eq_ok_of_toOption compiled
  have title : Graph.title graph.metadata = "Own".toList := by
    rw [Graph.title_eq, entries]
    decide +kernel
  obtain ⟨merged, mergedCompiled, _, _, stays⟩ := title_stays_iff_defaults_agree compiled
    (Table.ofPairs [("author", "Anon"), ("Title", "House")])
  have spelled : ∀ key ∈ (Table.ofPairs [("author".toList, "Anon".toList),
      ("Title".toList, "House".toList)]).keys, isTitleKey key = true →
        [("Title".toList, "Own".toList)].lookup key = some "Own".toList := by
    decide +kernel
  refine ⟨graph, merged, compiled, mergedCompiled, title, stays ?_⟩
  intro key member titled
  rw [title, Table.find?, entries]
  exact spelled key member titled

theorem title_displaced_cottage :
    ∃ graph merged, compile cottageStory = .ok graph ∧
      compile cottageStory { defaults := Table.ofPairs [("title", "House")] } = .ok merged ∧
      graph.metadata.find? "Title" = some "Own".toList ∧ isTitleKey "Title" = true ∧
      Graph.title graph.metadata = "Own".toList ∧
      Graph.title merged.metadata = "House".toList := by
  have own : (compile cottageStory).toOption.map (fun graph =>
      decide (graph.metadata.find? "Title" = some "Own".toList ∧
        Graph.title graph.metadata = "Own".toList)) = some true := by
    decide +kernel
  have displaced : (compile cottageStory
      { defaults := Table.ofPairs [("title", "House")] }).toOption.map (fun graph =>
        Graph.title graph.metadata) = some "House".toList := by
    decide +kernel
  obtain ⟨graph, compiled, facts⟩ := Option.map_eq_some_iff.mp own
  obtain ⟨merged, mergedCompiled, title⟩ := Option.map_eq_some_iff.mp displaced
  obtain ⟨found, titled⟩ := of_decide_eq_true facts
  exact ⟨graph, merged, Except.eq_ok_of_toOption compiled,
    Except.eq_ok_of_toOption mergedCompiled, found, by decide, titled, title⟩

end Knotwork
