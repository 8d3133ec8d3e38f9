import Knotwork.Proofs.Order
import Knotwork.Table

/-! Tables seen as maps: the value that each operation leaves under a key, and when two tables are
the same map although their keys were entered in different orders. -/

namespace Knotwork.Table

variable {α : Type}

def Agree (first second : Table α) : Prop := ∀ key, first.find? key = second.find? key

theorem Agree.symm {first second : Table α} (agree : first.Agree second) : second.Agree first :=
  fun key => (agree key).symm

theorem Agree.trans {first second third : Table α} (left : first.Agree second)
    (right : second.Agree third) : first.Agree third :=
  fun key => (left key).trans (right key)

theorem lookup_cons_eq (key other : Text) (value : α) (rest : List (Text × α)) :
    ((key, value) :: rest).lookup other = if other = key then some value else rest.lookup other := by
  rw [List.lookup_cons]
  by_cases asked : other = key
  · simp [asked]
  · have differs : (other == key) = false := beq_eq_false_iff_ne.mpr asked
    simp [asked, differs]

theorem lookup_reverse_map_const (names : List Text) (value : α) (name : Text) :
    (names.map (·, value)).reverse.lookup name = if name ∈ names then some value else none := by
  induction names with
  | nil => rfl
  | cons first rest ih =>
      rw [List.map_cons, List.reverse_cons, List.lookup_append, ih, lookup_cons_eq]
      by_cases later : name ∈ rest
      · simp [later]
      · by_cases here : name = first
        · subst here
          simp [later]
        · simp [later, here]

theorem lookup_enter (key other : Text) (value : α) (entries : List (Text × α)) :
    (enter key value entries).lookup other =
      if other = key then some value else entries.lookup other := by
  induction entries with
  | nil => simp [enter, lookup_cons_eq]
  | cons entry rest ih =>
      obtain ⟨k, v⟩ := entry
      simp only [enter]
      by_cases present : k = key
      · subst present
        by_cases asked : other = k <;> simp [lookup_cons_eq, asked]
      · by_cases asked : other = k
        · subst asked
          simp [present]
        · simp [present, lookup_cons_eq, asked, ih]

@[simp] theorem find?_empty (key : Text) : (empty : Table α).find? key = none := rfl

@[simp] theorem find?_insert (table : Table α) (key other : Text) (value : α) :
    (table.insert key value).find? other = if other = key then some value else table.find? other :=
  lookup_enter key other value table.entries

theorem find?_insertAll (table : Table α) (pairs : List (Text × α)) (key : Text) :
    (table.insertAll pairs).find? key = (pairs.reverse.lookup key).or (table.find? key) := by
  induction pairs generalizing table with
  | nil => rfl
  | cons pair rest ih =>
      have step := ih (table.insert pair.1 pair.2)
      simp only [insertAll, List.foldl_cons] at step ⊢
      rw [step, find?_insert, List.reverse_cons, List.lookup_append, Option.or_assoc]
      obtain ⟨k, v⟩ := pair
      by_cases asked : key = k <;> simp [lookup_cons_eq, asked]

theorem find?_ofPairs (pairs : List (Text × α)) (key : Text) :
    (ofPairs pairs).find? key = pairs.reverse.lookup key := by
  simp [ofPairs, find?_insertAll]

theorem mem_entries_iff (table : Table α) (key : Text) (value : α) :
    (key, value) ∈ table.entries ↔ table.find? key = some value := by
  obtain ⟨entries, distinct⟩ := table
  simp only [find?]
  induction entries with
  | nil => simp
  | cons entry rest ih =>
      obtain ⟨k, v⟩ := entry
      simp only [List.map_cons, List.nodup_cons] at distinct
      by_cases asked : key = k
      · subst asked
        have absent : (key, value) ∉ rest := fun member =>
          distinct.1 (List.mem_map_of_mem (f := Prod.fst) member)
        simp [absent, eq_comm]
      · simp [lookup_cons_eq, asked, ih distinct.2]

theorem lookup_eq_none_iff_not_mem (entries : List (Text × α)) (key : Text) :
    entries.lookup key = none ↔ key ∉ entries.map Prod.fst := by
  rw [List.lookup_eq_none_iff, List.mem_map]
  constructor
  · rintro absent ⟨entry, member, same⟩
    simpa [same] using absent entry member
  · intro absent entry member
    exact bne_iff_ne.mpr fun same => absent ⟨entry, member, same.symm⟩

theorem find?_eq_none_iff (table : Table α) (key : Text) :
    table.find? key = none ↔ key ∉ table.keys :=
  lookup_eq_none_iff_not_mem table.entries key

theorem mem_keys_iff (table : Table α) (key : Text) :
    key ∈ table.keys ↔ (table.find? key).isSome = true := by
  rw [← not_iff_not, ← find?_eq_none_iff]
  simp

theorem mem_values_iff (table : Table α) (value : α) :
    value ∈ table.values ↔ ∃ key, table.find? key = some value := by
  simp only [values, List.mem_map, Prod.exists, mem_entries_iff]
  constructor
  · rintro ⟨key, _, found, rfl⟩
    exact ⟨key, found⟩
  · rintro ⟨key, found⟩
    exact ⟨key, value, found, rfl⟩

theorem enter_of_not_mem {key : Text} (value : α) {entries : List (Text × α)}
    (absent : key ∉ entries.map Prod.fst) : enter key value entries = entries ++ [(key, value)] := by
  induction entries with
  | nil => rfl
  | cons entry rest ih =>
      obtain ⟨k, v⟩ := entry
      simp only [List.map_cons, List.mem_cons, not_or] at absent
      simp [enter, Ne.symm absent.1, ih absent.2]

theorem enter_of_mem {key : Text} (value : α) {entries : List (Text × α)}
    (distinct : (entries.map Prod.fst).Nodup) (present : key ∈ entries.map Prod.fst) :
    enter key value entries =
      entries.map fun entry => if entry.1 = key then (entry.1, value) else entry := by
  induction entries with
  | nil => cases present
  | cons entry rest ih =>
      obtain ⟨first, old⟩ := entry
      simp only [List.map_cons, List.nodup_cons] at distinct
      by_cases here : first = key
      · subst here
        have others : ∀ entry ∈ rest,
            (if entry.1 = first then (entry.1, value) else entry) = entry := by
          intro entry member
          rw [if_neg]
          rintro rfl
          exact distinct.1 (List.mem_map_of_mem member)
        rw [enter, if_pos rfl, List.map_cons, if_pos rfl, List.map_congr_left others, List.map_id']
      · have later : key ∈ rest.map Prod.fst := by
          rcases List.mem_cons.mp present with same | later
          · exact absurd same.symm here
          · exact later
        rw [enter, if_neg here, List.map_cons, if_neg here, ih distinct.2 later]

theorem entries_insert_of_mem {table : Table α} {key : Text} (present : key ∈ table.keys)
    (value : α) : (table.insert key value).entries =
      table.entries.map fun entry => if entry.1 = key then (entry.1, value) else entry :=
  enter_of_mem value table.distinct present

theorem entries_insert_of_not_mem {table : Table α} {key : Text} (absent : key ∉ table.keys)
    (value : α) : (table.insert key value).entries = table.entries ++ [(key, value)] :=
  enter_of_not_mem value absent

theorem keys_insert_of_mem {table : Table α} {key : Text} (present : key ∈ table.keys)
    (value : α) : (table.insert key value).keys = table.keys := by
  rw [keys, entries_insert_of_mem present, List.map_map]
  apply List.map_congr_left
  intro entry _
  simp only [Function.comp_apply]
  split <;> rfl

theorem keys_insert_of_not_mem {table : Table α} {key : Text} (absent : key ∉ table.keys)
    (value : α) : (table.insert key value).keys = table.keys ++ [key] := by
  rw [keys, entries_insert_of_not_mem absent, List.map_append]
  rfl

theorem entries_insertAll_of_nodup (table : Table α) (pairs : List (Text × α))
    (distinct : ((table.entries ++ pairs).map Prod.fst).Nodup) :
    (table.insertAll pairs).entries = table.entries ++ pairs := by
  induction pairs generalizing table with
  | nil => simp [insertAll]
  | cons pair rest ih =>
      have absent : pair.1 ∉ table.entries.map Prod.fst := by
        rw [List.map_append, List.map_cons] at distinct
        exact fun member => (List.nodup_append.mp distinct).2.2 pair.1 member pair.1 (by simp) rfl
      have entered : (table.insert pair.1 pair.2).entries = table.entries ++ [pair] :=
        enter_of_not_mem pair.2 absent
      have step := ih (table.insert pair.1 pair.2) (by simpa [entered] using distinct)
      simpa [insertAll, entered] using step

theorem entries_ofPairs_of_nodup (pairs : List (Text × α)) (distinct : (pairs.map Prod.fst).Nodup) :
    (ofPairs pairs).entries = pairs := by
  simpa [ofPairs, empty] using entries_insertAll_of_nodup empty pairs (by simpa [empty] using distinct)

theorem mem_keys_ofPairs (pairs : List (Text × α)) (key : Text) :
    key ∈ (ofPairs pairs).keys ↔ key ∈ pairs.map Prod.fst := by
  rw [← not_iff_not, ← find?_eq_none_iff, find?_ofPairs, lookup_eq_none_iff_not_mem,
    List.map_reverse, List.mem_reverse]

theorem sorted_perm (table : Table α) : table.sorted.Perm table.entries :=
  sortBy_perm _ table.entries

theorem nodup_keys_sorted (table : Table α) : (table.sorted.map Prod.fst).Nodup :=
  ((sorted_perm table).map Prod.fst).nodup_iff.mpr table.distinct

theorem pairwise_sorted (table : Table α) :
    table.sorted.Pairwise fun first second => Text.atMost first.1 second.1 = true := by
  apply pairwise_sortBy
  · intro first second
    exact Text.atMost_total first.1 second.1
  · intro first second third lower upper
    exact Text.atMost_trans lower upper

theorem sorted_keys_increase (table : Table α) :
    (table.sorted.map Prod.fst).Pairwise (· < ·) := by
  have ordered : (table.sorted.map Prod.fst).Pairwise (· ≤ ·) := by
    rw [List.pairwise_map]
    exact (pairwise_sorted table).imp fun lower => (Text.atMost_iff_le _ _).mp lower
  exact (ordered.and (nodup_keys_sorted table)).imp fun both => lt_of_le_of_ne both.1 both.2

theorem sorted_ofPairs_of_increasing {pairs : List (Text × α)}
    (increasing : (pairs.map Prod.fst).Pairwise (· < ·)) : (ofPairs pairs).sorted = pairs := by
  have distinct : (pairs.map Prod.fst).Nodup := increasing.imp ne_of_lt
  have entered := sorted_perm (ofPairs pairs)
  rw [entries_ofPairs_of_nodup pairs distinct] at entered
  have ordered := List.pairwise_map.mp (sorted_keys_increase (ofPairs pairs))
  refine List.Perm.eq_of_pairwise ?_ ordered (List.pairwise_map.mp increasing) entered
  intro first second _ _ less greater
  exact absurd greater (lt_asymm less)

theorem agree_of_perm {first second : Table α} (entries : first.entries.Perm second.entries) :
    first.Agree second := by
  intro key
  refine Option.ext fun value => ?_
  rw [← mem_entries_iff, ← mem_entries_iff]
  exact entries.mem_iff

theorem map_sorted {β : Type} (table : Table α) (image : Text × α → Text × β)
    (keyed : ∀ entry, (image entry).1 = entry.1) :
    table.sorted.map image =
      sortBy (fun first second => Text.atMost first.1 second.1) (table.entries.map image) := by
  apply map_sortBy
  intro first second
  rw [keyed, keyed]

theorem sorted_eq_iff (first second : Table α) :
    first.sorted = second.sorted ↔ first.Agree second := by
  constructor
  · intro same
    exact agree_of_perm ((sorted_perm first).symm.trans (same ▸ sorted_perm second))
  · intro agree
    have members : ∀ entry, entry ∈ first.entries ↔ entry ∈ second.entries := by
      rintro ⟨key, value⟩
      rw [mem_entries_iff, mem_entries_iff, agree key]
    have entries : first.entries.Perm second.entries :=
      (List.perm_ext_iff_of_nodup first.distinct.of_map second.distinct.of_map).mpr members
    refine List.Perm.eq_of_pairwise ?_ (pairwise_sorted first) (pairwise_sorted second)
      ((sorted_perm first).trans (entries.trans (sorted_perm second).symm))
    rintro ⟨key, value⟩ ⟨other, result⟩ member found lower upper
    obtain rfl : key = other := Text.atMost_antisymm lower upper
    rw [(sorted_perm first).mem_iff, mem_entries_iff] at member
    rw [(sorted_perm second).mem_iff, mem_entries_iff, ← agree key, member] at found
    rw [Option.some.inj found]

theorem same_eq_false_iff [DecidableEq α] (first second : Table α) :
    first.same second = false ↔ ¬first.Agree second := by
  rw [same, decide_eq_false_iff_not, sorted_eq_iff]

section Images

variable {β : Type}

def mapValues (image : α → β) (table : Table α) : Table β :=
  ⟨table.entries.map fun entry => (entry.1, image entry.2), by
    rw [List.map_map]
    exact table.distinct⟩

theorem find?_mapValues (image : α → β) (table : Table α) (key : Text) :
    (table.mapValues image).find? key = (table.find? key).map image := by
  refine Option.ext fun value => ?_
  rw [← mem_entries_iff, Option.map_eq_some_iff]
  simp only [mapValues, List.mem_map, Prod.exists, Prod.mk.injEq, mem_entries_iff]
  constructor
  · rintro ⟨_, found, stored, rfl, same⟩
    exact ⟨found, stored, same⟩
  · rintro ⟨found, stored, same⟩
    exact ⟨key, found, stored, rfl, same⟩

theorem map_sorted_eq_iff (image : α → β) (first second : Table α) :
    first.sorted.map (fun entry => (entry.1, image entry.2)) =
        second.sorted.map (fun entry => (entry.1, image entry.2)) ↔
      ∀ key, (first.find? key).map image = (second.find? key).map image := by
  have sorted : ∀ table : Table α,
      table.sorted.map (fun entry => (entry.1, image entry.2)) = (table.mapValues image).sorted :=
    fun table => map_sorted table _ fun _ => rfl
  rw [sorted, sorted, sorted_eq_iff]
  simp only [Agree, find?_mapValues]

theorem map_sorted_eq_iff_agree {image : α → β} (injective : Function.Injective image)
    (first second : Table α) :
    first.sorted.map (fun entry => (entry.1, image entry.2)) =
        second.sorted.map (fun entry => (entry.1, image entry.2)) ↔ first.Agree second := by
  rw [map_sorted_eq_iff]
  exact forall_congr' fun key => (Option.map_injective injective).eq_iff

end Images

end Knotwork.Table
