import Knotwork.Proofs.Grammar
import Knotwork.Proofs.Identity

/-! Reading an identity and writing it again brings it into its canonical form. Main statement: exactly
the texts that are laid out as identities are read, what was read is kept when it is written again, and
the text itself comes back exactly if the names in it increase, as they do in the texts that encoding
gives. -/

namespace Knotwork.Identity

theorem decodeEntry_eq_ok_iff {identity piece : Text} {entry : Text × Bool} :
    decodeEntry identity piece = .ok entry ↔ piece = State.renderEntry entry ∧ '=' ∉ entry.1 := by
  constructor
  · intro accepted
    unfold decodeEntry at accepted
    split at accepted
    · cases accepted
    · rename_i name word found
      split at accepted
      · cases accepted
      · rename_i value known
        cases accepted
        obtain ⟨split, absent⟩ := Text.cut?_char_eq_some found
        rw [Text.toBool?_eq_some_iff.mp known] at split
        exact ⟨by simpa [State.renderEntry] using split, absent⟩
  · rintro ⟨rfl, absent⟩
    exact decodeEntry_renderEntry identity entry absent

theorem plain_of_decodeEntries {identity encoded : Text} {entries : List (Text × Bool)}
    (read : (Text.splitOn [','] encoded).mapM (decodeEntry identity) = .ok entries) :
    ∀ entry ∈ entries, '=' ∉ entry.1 ∧ ',' ∉ entry.1 := by
  intro entry member
  obtain ⟨piece, present, decoded⟩ := mem_of_mapM_eq_ok read member
  obtain ⟨rfl, unequal⟩ := decodeEntry_eq_ok_iff.mp decoded
  have unbroken := Text.not_mem_of_mem_splitOn ',' present
  refine ⟨unequal, fun inside => unbroken ?_⟩
  simp [State.renderEntry, inside]

theorem joinWith_of_decodeEntries {identity encoded : Text} {entries : List (Text × Bool)}
    (read : (Text.splitOn [','] encoded).mapM (decodeEntry identity) = .ok entries) :
    Text.joinWith [','] (entries.map State.renderEntry) = encoded := by
  have each := (mapM_eq_ok_iff.mp read).imp fun _ _ decoded => (decodeEntry_eq_ok_iff.mp decoded).1
  rw [← List.forall₂_map_right_iff, List.forall₂_eq_eq_eq] at each
  rw [← each, Text.joinWith_splitOn]

namespace Layout

theorem exists_of_decode {identity knot : Text} {state : State}
    (accepted : decode identity = .ok (knot, state)) :
    ∃ layout : Layout, layout.text = identity := by
  unfold decode at accepted
  split at accepted
  · cases accepted
  · rename_i front rest found
    obtain ⟨split, unbarred⟩ := Text.cut?_char_eq_some found
    split at accepted
    · cases accepted
    · rename_i named
      split at accepted
      · rename_i empty
        cases accepted
        refine ⟨⟨knot, [], named, unbarred, by simp⟩, ?_⟩
        simp [text, encoded, Text.joinWith, split, empty]
      · obtain ⟨entries, read, same⟩ := Except.bind_eq_ok.mp accepted
        cases same
        refine ⟨⟨knot, entries, named, unbarred, plain_of_decodeEntries read⟩, ?_⟩
        rw [text, encoded, joinWith_of_decodeEntries read, List.append_assoc]
        exact split.symm

-- The table that is decoded forgets the order and the repetitions of names, so the entries are compared
-- through their pieces.
theorem text_injective : Function.Injective text := by
  intro first second same
  have cuts := congrArg (Text.cut? ['|']) same
  rw [cut?_text, cut?_text] at cuts
  obtain ⟨knots, codes⟩ := Prod.mk.inj (Option.some.inj cuts)
  refine Layout.ext knots ?_
  by_cases empty : first.entries = []
  · have other := first.encoded_eq_nil_iff.mpr empty
    rw [codes, encoded_eq_nil_iff] at other
    rw [empty, other]
  · have filled : second.entries ≠ [] := by
      rwa [Ne, ← encoded_eq_nil_iff, ← codes, encoded_eq_nil_iff]
    have pieces := congrArg (Text.splitOn [',']) codes
    rw [splitOn_encoded first empty, splitOn_encoded second filled] at pieces
    have read := decodeEntries_text [] first
    rw [pieces, decodeEntries_text] at read
    exact (Except.ok.inj read).symm

theorem identifiable (layout : Layout) :
    Identifiable layout.knot (Table.ofPairs layout.entries) := by
  refine ⟨layout.named, layout.unbarred, fun name member => ?_⟩
  rw [Table.mem_keys_ofPairs] at member
  obtain ⟨entry, present, rfl⟩ := List.mem_map.mp member
  exact layout.plain entry present

theorem encode_of_increasing (layout : Layout) (increasing : layout.names.Pairwise (· < ·)) :
    encode layout.knot (Table.ofPairs layout.entries) = layout.text := by
  rw [encode, Table.sorted_ofPairs_of_increasing increasing]
  rfl

theorem increasing_iff (layout : Layout) :
    layout.names.Pairwise (· < ·) ↔
      ∃ knot state, Identifiable knot state ∧ layout.text = encode knot state := by
  constructor
  · intro increasing
    exact ⟨_, _, layout.identifiable, (layout.encode_of_increasing increasing).symm⟩
  · rintro ⟨knot, state, clean, same⟩
    have written : layout = ofState clean := text_injective same
    rw [written]
    exact Table.sorted_keys_increase state

theorem encode_eq_text_iff (layout : Layout) :
    encode layout.knot (Table.ofPairs layout.entries) = layout.text ↔
      layout.names.Pairwise (· < ·) := by
  refine ⟨fun same => ?_, layout.encode_of_increasing⟩
  exact layout.increasing_iff.mpr ⟨_, _, layout.identifiable, same.symm⟩

end Layout

/-- Decoding accepts exactly the texts that are laid out as identities, each in one way, and of a name
that stands there twice the last value counts. What was decoded is encoded to a text that decodes to
the same knot and the same map of values. The two texts are one exactly if the names in the given text
increase, and such are exactly the identities of knots in states. -/
theorem decoding_normalises (identity : Text) :
    ((∃ knot state, decode identity = .ok (knot, state)) ↔
      ∃ layout : Layout, layout.text = identity) ∧
    Function.Injective Layout.text ∧
    ∀ (layout : Layout) (knot : Text) (state : State), layout.text = identity →
      decode identity = .ok (knot, state) →
        (knot = layout.knot ∧ ∀ name, state.find? name = layout.entries.reverse.lookup name) ∧
        (∃ again, decode (encode knot state) = .ok (knot, again) ∧
          ∀ name, again.find? name = state.find? name) ∧
        (encode knot state = identity ↔ layout.names.Pairwise (· < ·)) ∧
        (layout.names.Pairwise (· < ·) ↔
          ∃ other values, Identifiable other values ∧ identity = encode other values) := by
  refine ⟨?_, Layout.text_injective, ?_⟩
  · constructor
    · rintro ⟨knot, state, accepted⟩
      exact Layout.exists_of_decode accepted
    · rintro ⟨layout, rfl⟩
      exact ⟨_, _, layout.decode_text⟩
  · rintro layout knot state rfl accepted
    rw [layout.decode_text] at accepted
    cases accepted
    have again := decode_encode layout.identifiable
    exact ⟨⟨rfl, Table.find?_ofPairs layout.entries⟩, ⟨_, again, agree_ofPairs_sorted _⟩,
      layout.encode_eq_text_iff, layout.increasing_iff⟩

theorem decoding_normalises_hall :
    decode "hall|lamp=true,a|b=false,lamp=false" =
        .ok ("hall".toList, Table.ofPairs [("lamp", false), ("a|b", false)]) ∧
      decode (encode "hall" (Table.ofPairs [("lamp", false), ("a|b", false)])) =
        .ok ("hall".toList, Table.ofPairs [("a|b", false), ("lamp", false)]) ∧
      encode "hall" (Table.ofPairs [("lamp", false), ("a|b", false)]) ≠
        "hall|lamp=true,a|b=false,lamp=false".toList ∧
      ¬∃ other values, Identifiable other values ∧
        "hall|lamp=true,a|b=false,lamp=false".toList = encode other values := by
  have accepted : decode "hall|lamp=true,a|b=false,lamp=false" =
      .ok ("hall".toList, Table.ofPairs [("lamp", false), ("a|b", false)]) := by decide +kernel
  obtain ⟨_, _, normalised⟩ := decoding_normalises "hall|lamp=true,a|b=false,lamp=false"
  let layout : Layout :=
    ⟨"hall", [("lamp", true), ("a|b", false), ("lamp", false)], by decide, by decide, by decide⟩
  have written : layout.text = "hall|lamp=true,a|b=false,lamp=false".toList := by decide +kernel
  have unordered : ¬layout.names.Pairwise (· < ·) := by decide +kernel
  obtain ⟨_, _, same, canonical⟩ := normalised layout _ _ written accepted
  exact ⟨accepted, by decide +kernel, mt same.mp unordered, mt canonical.mpr unordered⟩

end Knotwork.Identity
