import Knotwork.Identity
import Knotwork.Proofs.Table
import Knotwork.Proofs.Text

/-! The identity of a node is a faithful encoding: it reads back as the knot and the values it was
made of, and two nodes share one exactly if they are the same knot with the same map of values. -/

namespace Knotwork

def State.Plain (state : State) : Prop := ∀ name ∈ state.keys, '=' ∉ name ∧ ',' ∉ name

structure Identifiable (knot : Text) (state : State) : Prop where
  named : knot ≠ []
  unbarred : '|' ∉ knot
  plain : state.Plain

namespace Identity

theorem comma_not_mem_ofBool (value : Bool) : ',' ∉ Text.ofBool value := by
  cases value <;> decide

theorem decodeEntry_renderEntry (identity : Text) (entry : Text × Bool) (plain : '=' ∉ entry.1) :
    decodeEntry identity (State.renderEntry entry) = .ok entry := by
  have cut : Text.cut? ['='] (State.renderEntry entry) = some (entry.1, Text.ofBool entry.2) := by
    rw [State.renderEntry, List.append_assoc, List.singleton_append]
    exact Text.cut?_append '=' entry.1 (Text.ofBool entry.2) plain
  simp [decodeEntry, cut]

theorem decodeEntries_renderEntries (identity : Text) (entries : List (Text × Bool))
    (plain : ∀ entry ∈ entries, '=' ∉ entry.1) :
    (entries.map State.renderEntry).mapM (decodeEntry identity) = .ok entries := by
  induction entries with
  | nil => rfl
  | cons entry rest ih =>
      have first := decodeEntry_renderEntry identity entry (plain entry (by simp))
      have others := ih fun other member => plain other (by simp [member])
      rw [List.map_cons, List.mapM_cons, first, others]
      rfl

theorem renderEntry_ne_nil (entry : Text × Bool) : State.renderEntry entry ≠ [] := by
  simp [State.renderEntry]

theorem comma_not_mem_renderEntry (entry : Text × Bool) (plain : ',' ∉ entry.1) :
    ',' ∉ State.renderEntry entry := by
  simp [State.renderEntry, plain, comma_not_mem_ofBool]

/-- How an identity is written: a knot, and variables with their values, in whatever order and however
often. A knot holds no bar, and a name holds no mark that ends a name or a variable. -/
@[ext] structure Layout where
  knot : Text
  entries : List (Text × Bool)
  named : knot ≠ []
  unbarred : '|' ∉ knot
  plain : ∀ entry ∈ entries, '=' ∉ entry.1 ∧ ',' ∉ entry.1

namespace Layout

def encoded (layout : Layout) : Text :=
  Text.joinWith [','] (layout.entries.map State.renderEntry)

def text (layout : Layout) : Text := layout.knot ++ ['|'] ++ layout.encoded

def names (layout : Layout) : List Text := layout.entries.map Prod.fst

theorem cut?_text (layout : Layout) :
    Text.cut? ['|'] layout.text = some (layout.knot, layout.encoded) := by
  rw [text, List.append_assoc, List.singleton_append]
  exact Text.cut?_append '|' layout.knot layout.encoded layout.unbarred

theorem encoded_eq_nil_iff (layout : Layout) : layout.encoded = [] ↔ layout.entries = [] := by
  constructor
  · intro nothing
    by_contra filled
    refine Text.joinWith_ne_nil _ _ (by simpa using filled) (fun piece member => ?_) nothing
    obtain ⟨entry, _, rfl⟩ := List.mem_map.mp member
    exact renderEntry_ne_nil entry
  · intro empty
    rw [encoded, empty]
    rfl

theorem splitOn_encoded (layout : Layout) (filled : layout.entries ≠ []) :
    Text.splitOn [','] layout.encoded = layout.entries.map State.renderEntry := by
  refine Text.splitOn_joinWith ',' _ (by simpa using filled) fun piece member => ?_
  obtain ⟨entry, present, rfl⟩ := List.mem_map.mp member
  exact comma_not_mem_renderEntry entry (layout.plain entry present).2

theorem decodeEntries_text (identity : Text) (layout : Layout) :
    (layout.entries.map State.renderEntry).mapM (decodeEntry identity) = .ok layout.entries :=
  decodeEntries_renderEntries identity layout.entries fun entry member =>
    (layout.plain entry member).1

theorem decode_text (layout : Layout) :
    decode layout.text = .ok (layout.knot, Table.ofPairs layout.entries) := by
  rw [decode, layout.cut?_text]
  simp only [layout.named, if_false, encoded_eq_nil_iff]
  by_cases empty : layout.entries = []
  · simp [empty, Table.ofPairs, Table.insertAll]
  · rw [if_neg empty, layout.splitOn_encoded empty, decodeEntries_text]
    rfl

end Layout

theorem sorted_plain {state : State} (plain : state.Plain) {entry : Text × Bool}
    (member : entry ∈ state.sorted) : '=' ∉ entry.1 ∧ ',' ∉ entry.1 :=
  plain entry.1 (List.mem_map_of_mem (f := Prod.fst) ((Table.sorted_perm state).mem_iff.mp member))

def Layout.ofState {knot : Text} {state : State} (clean : Identifiable knot state) : Layout where
  knot := knot
  entries := state.sorted
  named := clean.named
  unbarred := clean.unbarred
  plain _ member := sorted_plain clean.plain member

theorem decode_encode {knot : Text} {state : State} (clean : Identifiable knot state) :
    decode (encode knot state) = .ok (knot, Table.ofPairs state.sorted) :=
  (Layout.ofState clean).decode_text

theorem entries_ofPairs_sorted (state : State) : (Table.ofPairs state.sorted).entries = state.sorted :=
  Table.entries_ofPairs_of_nodup state.sorted (Table.nodup_keys_sorted state)

theorem agree_ofPairs_sorted (state : State) : (Table.ofPairs state.sorted).Agree state := by
  intro name
  refine Option.ext fun value => ?_
  rw [← Table.mem_entries_iff, ← Table.mem_entries_iff, entries_ofPairs_sorted]
  exact (Table.sorted_perm state).mem_iff

theorem encode_congr (knot : Text) {first second : State} (agree : first.Agree second) :
    encode knot first = encode knot second := by
  rw [encode, encode, (Table.sorted_eq_iff first second).mpr agree]

theorem encode_injective {knot other : Text} {state values : State} (unbarred : '|' ∉ knot)
    (otherUnbarred : '|' ∉ other) (plain : state.Plain) (valuesPlain : values.Plain)
    (same : encode knot state = encode other values) : knot = other ∧ state.Agree values := by
  -- No identity of a nameless knot can be decoded, so both names are read with a letter in front.
  have longer : encode ('x' :: knot) state = encode ('x' :: other) values :=
    congrArg (List.cons 'x') same
  have first : Identifiable ('x' :: knot) state := ⟨by simp, by simp [unbarred], plain⟩
  have second : Identifiable ('x' :: other) values := ⟨by simp, by simp [otherUnbarred], valuesPlain⟩
  have decoded := decode_encode first
  rw [longer, decode_encode second] at decoded
  simp only [Except.ok.injEq, Prod.mk.injEq, List.cons.injEq, true_and] at decoded
  refine ⟨decoded.1.symm, ?_⟩
  have middle : (Table.ofPairs state.sorted).Agree values :=
    decoded.2 ▸ agree_ofPairs_sorted values
  exact (agree_ofPairs_sorted state).symm.trans middle

/-- An identity reads back as its knot and the same map of values, now in dictionary order. Hence
equal identities belong to equal knots and equal maps, and to those only. -/
theorem encode_faithful {knot other : Text} {state values : State}
    (clean : Identifiable knot state) (otherClean : Identifiable other values) :
    (∃ decoded, decode (encode knot state) = .ok (knot, decoded) ∧
      (∀ name, decoded.find? name = state.find? name) ∧ decoded.keys.Pairwise (· < ·)) ∧
    (encode knot state = encode other values ↔
      knot = other ∧ ∀ name, state.find? name = values.find? name) := by
  constructor
  · refine ⟨_, decode_encode clean, agree_ofPairs_sorted state, ?_⟩
    rw [Table.keys, entries_ofPairs_sorted]
    exact Table.sorted_keys_increase state
  · constructor
    · exact encode_injective clean.unbarred otherClean.unbarred clean.plain otherClean.plain
    · rintro ⟨rfl, agree⟩
      exact encode_congr knot agree

theorem encode_faithful_hall :
    Identifiable "hall" (Table.ofPairs [("z|z", true), ("key", false)]) ∧
      Identifiable "hall" (Table.ofPairs [("key", false), ("z|z", true)]) ∧
      encode "hall" (Table.ofPairs [("z|z", true), ("key", false)]) =
        encode "hall" (Table.ofPairs [("key", false), ("z|z", true)]) ∧
      ∃ decoded, decode (encode "hall" (Table.ofPairs [("z|z", true), ("key", false)])) =
        .ok ("hall".toList, decoded) ∧ decoded.keys.Pairwise (· < ·) := by
  have first : Identifiable "hall" (Table.ofPairs [("z|z", true), ("key", false)]) :=
    ⟨by decide, by decide, by unfold State.Plain; decide⟩
  have second : Identifiable "hall" (Table.ofPairs [("key", false), ("z|z", true)]) :=
    ⟨by decide, by decide, by unfold State.Plain; decide⟩
  obtain ⟨⟨decoded, read, _, ordered⟩, same⟩ := encode_faithful first second
  have agree := (Table.sorted_eq_iff (Table.ofPairs [("z|z".toList, true), ("key".toList, false)])
    (Table.ofPairs [("key".toList, false), ("z|z".toList, true)])).mp (by decide)
  exact ⟨first, second, same.mpr ⟨rfl, agree⟩, decoded, read, ordered⟩

end Identity

end Knotwork
