import Knotwork.Proofs.Replacing

/-! Blanks around text, and the places where a mark stands in it. Main statements: cutting finds the
leftmost mark, and the pieces of a text are those between its leftmost marks that do not overlap. -/

namespace Knotwork.Text

def Blank (t : Text) : Prop := ∀ c ∈ t, isBlank c = true

instance (t : Text) : Decidable t.Blank := decidable_of_iff (t.all isBlank) (by simp [Blank])

theorem blank_nil : Blank [] := by simp [Blank]

theorem Blank.not_mem {t : Text} (blank : t.Blank) {c : Char} (visible : isBlank c = false) :
    c ∉ t := by
  intro member
  rw [blank c member] at visible
  cases visible

theorem trimStart_append_of_blank {lead : Text} (blank : lead.Blank) (t : Text) :
    trimStart (lead ++ t) = trimStart t :=
  List.dropWhile_append_of_pos blank

theorem trimEnd_append_of_blank {tail : Text} (blank : tail.Blank) (t : Text) :
    trimEnd (t ++ tail) = trimEnd t := by
  have reversed : ∀ c ∈ tail.reverse, isBlank c = true := by simpa [Blank] using blank
  rw [trimEnd, List.reverse_append, List.dropWhile_append_of_pos reversed]
  rfl

theorem trimStart_eq_nil_iff {t : Text} : trimStart t = [] ↔ t.Blank :=
  List.dropWhile_eq_nil_iff

theorem trimEnd_eq_nil_iff {t : Text} : trimEnd t = [] ↔ t.Blank := by
  rw [trimEnd, List.reverse_eq_nil_iff, List.dropWhile_eq_nil_iff]
  simp [Blank]

theorem exists_trimStart (t : Text) : ∃ lead, Blank lead ∧ t = lead ++ trimStart t :=
  ⟨t.takeWhile isBlank, fun _ member => List.mem_takeWhile_imp member,
    List.takeWhile_append_dropWhile.symm⟩

theorem exists_trimEnd (t : Text) : ∃ tail, Blank tail ∧ t = trimEnd t ++ tail := by
  obtain ⟨lead, blank, split⟩ := exists_trimStart t.reverse
  refine ⟨lead.reverse, by simpa [Blank] using blank, ?_⟩
  have turned := congrArg List.reverse split
  rwa [List.reverse_reverse, List.reverse_append] at turned

theorem trim_eq_nil_iff {t : Text} : trim t = [] ↔ t.Blank := by
  obtain ⟨lead, blank, split⟩ := exists_trimStart t
  rw [trim, trimEnd_eq_nil_iff]
  constructor
  · intro rest
    rw [split]
    exact List.forall_mem_append.mpr ⟨blank, rest⟩
  · intro all c member
    exact all c (by rw [split]; simp [member])

theorem exists_blanks (t : Text) :
    ∃ lead tail, Blank lead ∧ Blank tail ∧ t = lead ++ trim t ++ tail := by
  obtain ⟨lead, leadBlank, started⟩ := exists_trimStart t
  obtain ⟨tail, tailBlank, ended⟩ := exists_trimEnd (trimStart t)
  refine ⟨lead, tail, leadBlank, tailBlank, ?_⟩
  rw [List.append_assoc, trim, ← ended]
  exact started

theorem trimStart_append (first second : Text) :
    trimStart (first ++ second) =
      if trimStart first = [] then trimStart second else trimStart first ++ second := by
  rw [trimStart, List.dropWhile_append]
  simp [trimStart, List.isEmpty_iff]

theorem trimEnd_append (first second : Text) :
    trimEnd (first ++ second) =
      if trimEnd second = [] then trimEnd first else first ++ trimEnd second := by
  rw [trimEnd, List.reverse_append, List.dropWhile_append]
  simp only [trimEnd, List.isEmpty_iff, List.reverse_eq_nil_iff]
  split <;> simp

theorem trim_blanks {lead tail : Text} (leadBlank : lead.Blank) (tailBlank : tail.Blank)
    (t : Text) : trim (lead ++ t ++ tail) = trim t := by
  rw [List.append_assoc, trim, trimStart_append_of_blank leadBlank, trimStart_append]
  split
  · rename_i nothing
    rw [trimStart_eq_nil_iff.mpr tailBlank, trim, nothing]
  · exact trimEnd_append_of_blank tailBlank _

theorem trim_blank_append {lead : Text} (blank : lead.Blank) (t : Text) :
    trim (lead ++ t) = trim t := by
  have bare := trim_blanks blank blank_nil t
  rwa [List.append_nil] at bare

theorem trim_append_blank {tail : Text} (blank : tail.Blank) (t : Text) :
    trim (t ++ tail) = trim t :=
  trim_blanks blank_nil blank t

theorem trim_cons_of_isBlank {c : Char} (blank : isBlank c = true) (t : Text) :
    trim (c :: t) = trim t := by
  have single : Blank [c] := by simpa [Blank] using blank
  exact trim_blank_append single t

theorem trim_trimEnd (t : Text) : trim (trimEnd t) = trim t := by
  obtain ⟨tail, blank, split⟩ := exists_trimEnd t
  have bare := trim_append_blank blank (trimEnd t)
  rw [← split] at bare
  exact bare.symm

theorem trimStart_suffix (t : Text) : trimStart t <:+ t := List.dropWhile_suffix isBlank

section Trimmed

variable {t : Text} (trimmed : trim t = t)

include trimmed

theorem trimStart_of_trimmed : trimStart t = t := by
  have ended : trim t <+: trimStart t := trimEnd_prefix (trimStart t)
  rw [trimmed] at ended
  exact (trimStart_suffix t).eq_of_length_le ended.length_le

theorem trimEnd_of_trimmed : trimEnd t = t := by
  have both := trimmed
  rwa [trim, trimStart_of_trimmed trimmed] at both

theorem trim_append_trimmed (filled : t ≠ []) (before : Text) :
    trim (before ++ t) = trimStart before ++ t := by
  have ended : ∀ front : Text, trimEnd (front ++ t) = front ++ t := by
    intro front
    rw [trimEnd_append, trimEnd_of_trimmed trimmed, if_neg filled]
  rw [trim, trimStart_append, trimStart_of_trimmed trimmed]
  split
  · rename_i nothing
    rw [nothing, List.nil_append, trimEnd_of_trimmed trimmed]
  · exact ended _

theorem trim_trimmed_append (filled : t ≠ []) (after : Text) :
    trim (t ++ after) = t ++ trimEnd after := by
  rw [trim, trimStart_append, trimStart_of_trimmed trimmed, if_neg filled, trimEnd_append]
  split
  · rename_i nothing
    rw [trimEnd_of_trimmed trimmed, nothing, List.append_nil]
  · rfl

end Trimmed

theorem blanks_inj {lead tail core otherLead otherTail otherCore : Text} (leadBlank : lead.Blank)
    (tailBlank : tail.Blank) (trimmed : trim core = core) (filled : core ≠ [])
    (otherLeadBlank : otherLead.Blank) (otherTailBlank : otherTail.Blank)
    (otherTrimmed : trim otherCore = otherCore)
    (same : lead ++ core ++ tail = otherLead ++ otherCore ++ otherTail) :
    lead = otherLead ∧ core = otherCore ∧ tail = otherTail := by
  have cores := congrArg trim same
  rw [trim_blanks leadBlank tailBlank, trim_blanks otherLeadBlank otherTailBlank, trimmed,
    otherTrimmed] at cores
  subst cores
  have ends := congrArg trimStart same
  rw [List.append_assoc, List.append_assoc, trimStart_append_of_blank leadBlank,
    trimStart_append_of_blank otherLeadBlank, trimStart_append, trimStart_append,
    trimStart_of_trimmed trimmed, if_neg filled, if_neg filled] at ends
  have tails := List.append_cancel_left ends
  subst tails
  rw [List.append_assoc, List.append_assoc] at same
  exact ⟨List.append_cancel_right same, rfl, rfl⟩

/-! Where a mark stands. -/

def Leftmost (mark before after : Text) : Prop :=
  ∀ early late, before ++ mark ++ after = early ++ mark ++ late → before.length ≤ early.length

theorem cut?_eq_none_iff {mark : Text} (nonempty : mark ≠ []) {t : Text} :
    cut? mark t = none ↔ ¬mark <:+: t := by
  induction t with
  | nil => simpa [cut?] using nonempty
  | cons c rest ih =>
      rw [cut?, List.infix_cons_iff, not_or, ← ih, ← List.isPrefixOf_iff_prefix,
        ← List.isSome_isPrefixOf?_eq_isPrefixOf]
      cases mark.isPrefixOf? (c :: rest) <;> simp

theorem cut?_eq_some {mark t before after : Text} (found : cut? mark t = some (before, after)) :
    t = before ++ mark ++ after ∧ Leftmost mark before after := by
  induction t generalizing before with
  | nil => cases found
  | cons c rest ih =>
      unfold cut? at found
      split at found
      · rename_i suffix marked
        cases found
        have split := List.isPrefixOf?_eq_some_iff_append_eq.mp marked
        exact ⟨split.symm, fun _ _ _ => Nat.zero_le _⟩
      · rename_i unmarked
        obtain ⟨⟨front, back⟩, later, same⟩ := Option.map_eq_some_iff.mp found
        cases same
        obtain ⟨split, leftmost⟩ := ih later
        refine ⟨by rw [split]; rfl, ?_⟩
        intro early late other
        cases early with
        | nil =>
            have marked : mark <+: c :: rest := ⟨late, by rw [split]; exact other.symm⟩
            rw [← List.isPrefixOf_iff_prefix, ← List.isSome_isPrefixOf?_eq_isPrefixOf,
              unmarked] at marked
            cases marked
        | cons first others =>
            have smaller := leftmost others late (List.cons.inj other).2
            simpa using smaller

theorem cut?_eq_some_iff {mark : Text} (nonempty : mark ≠ []) {t before after : Text} :
    cut? mark t = some (before, after) ↔
      t = before ++ mark ++ after ∧ Leftmost mark before after := by
  refine ⟨cut?_eq_some, ?_⟩
  rintro ⟨rfl, leftmost⟩
  cases found : cut? mark (before ++ mark ++ after) with
  | none => exact absurd ⟨before, after, rfl⟩ ((cut?_eq_none_iff nonempty).mp found)
  | some parts =>
      obtain ⟨early, late⟩ := parts
      obtain ⟨same, earliest⟩ := cut?_eq_some found
      have bound := leftmost early late same
      have other := earliest before after same.symm
      rw [List.append_assoc, List.append_assoc] at same
      obtain ⟨rfl, rest⟩ := List.append_inj same (by omega)
      rw [List.append_cancel_left rest]

/-- A text is cut into pieces at its leftmost marks that do not overlap: at the first one of all, and
after it at the leftmost ones of what follows. -/
inductive Cuts (mark : Text) : Text → List Text → Prop
  | whole {t : Text} : ¬mark <:+: t → Cuts mark t [t]
  | first {before after : Text} {pieces : List Text} : Leftmost mark before after →
      Cuts mark after pieces → Cuts mark (before ++ mark ++ after) (before :: pieces)

theorem splitOn_of_cut?_eq_none {mark t : Text} (absent : cut? mark t = none) :
    splitOn mark t = [t] := by
  induction t with
  | nil => rfl
  | cons c rest ih =>
      unfold cut? at absent
      split at absent
      · cases absent
      · rename_i unmarked
        have skipped : mark.isPrefixOf (c :: rest) = false := by
          rw [← List.isSome_isPrefixOf?_eq_isPrefixOf, unmarked]
          rfl
        rw [splitOn_cons, skipped, ih (Option.map_eq_none_iff.mp absent)]
        rfl

theorem splitOn_of_cut?_eq_some {mark : Text} (nonempty : mark ≠ []) {t before after : Text}
    (found : cut? mark t = some (before, after)) :
    splitOn mark t = before :: splitOn mark after := by
  induction t generalizing before with
  | nil => cases found
  | cons c rest ih =>
      unfold cut? at found
      rw [splitOn_cons, ← List.isSome_isPrefixOf?_eq_isPrefixOf]
      split at found
      · rename_i suffix marked
        cases found
        obtain ⟨m, others, rfl⟩ := List.exists_cons_of_ne_nil nonempty
        have split := List.isPrefixOf?_eq_some_iff_append_eq.mp marked
        have dropped : rest = others ++ after := (List.cons.inj split).2.symm
        rw [marked, dropped]
        simp
      · rename_i unmarked
        obtain ⟨⟨front, back⟩, later, same⟩ := Option.map_eq_some_iff.mp found
        cases same
        rw [unmarked, ih later]
        rfl

theorem cuts_splitOn {mark : Text} (nonempty : mark ≠ []) (t : Text) :
    Cuts mark t (splitOn mark t) := by
  induction length : t.length using Nat.strong_induction_on generalizing t with
  | _ bound ih =>
      subst length
      cases found : cut? mark t with
      | none =>
          rw [splitOn_of_cut?_eq_none found]
          exact .whole ((cut?_eq_none_iff nonempty).mp found)
      | some parts =>
          obtain ⟨before, after⟩ := parts
          rw [splitOn_of_cut?_eq_some nonempty found]
          obtain ⟨rfl, leftmost⟩ := cut?_eq_some found
          have filled : 0 < mark.length := List.length_pos_iff.mpr nonempty
          have shorter : after.length < (before ++ mark ++ after).length := by
            rw [List.length_append, List.length_append]
            omega
          exact .first leftmost (ih _ shorter after rfl)

theorem Leftmost.unmarked {mark before after : Text} (leftmost : Leftmost mark before after)
    (nonempty : mark ≠ []) : ¬mark <:+: before := by
  rintro ⟨early, late, rfl⟩
  have bound := leftmost early (late ++ mark ++ after) (by simp)
  have filled := List.length_pos_iff.mpr nonempty
  simp only [List.length_append] at bound
  omega

theorem Cuts.unmarked {mark t : Text} {pieces : List Text} (cuts : Cuts mark t pieces)
    (nonempty : mark ≠ []) : ∀ piece ∈ pieces, ¬mark <:+: piece := by
  induction cuts with
  | whole absent => simpa using absent
  | first leftmost _ ih => exact List.forall_mem_cons.mpr ⟨leftmost.unmarked nonempty, ih⟩

theorem cuts_iff {mark : Text} (nonempty : mark ≠ []) {t : Text} {pieces : List Text} :
    Cuts mark t pieces ↔ splitOn mark t = pieces := by
  constructor
  · intro cuts
    induction cuts with
    | whole absent => exact splitOn_of_cut?_eq_none ((cut?_eq_none_iff nonempty).mpr absent)
    | first leftmost _ ih =>
        have found := (cut?_eq_some_iff nonempty).mpr ⟨rfl, leftmost⟩
        rw [splitOn_of_cut?_eq_some nonempty found, ih]
  · rintro rfl
    exact cuts_splitOn nonempty t

theorem append_eq_append_pair {a b : Char} {first second before after : Text} :
    first ++ second = before ++ a :: b :: after ↔
      (∃ middle, first = before ++ a :: b :: middle ∧ after = middle ++ second) ∨
        (first = before ++ [a] ∧ second = b :: after) ∨
          ∃ middle, before = first ++ middle ∧ second = middle ++ a :: b :: after := by
  constructor
  · intro same
    rcases List.append_eq_append_iff.mp same with ⟨middle, earlier, later⟩ | ⟨middle, earlier, later⟩
    · exact Or.inr (Or.inr ⟨middle, earlier, later⟩)
    · rcases middle with _ | ⟨c, _ | ⟨d, rest⟩⟩
      · exact Or.inr (Or.inr ⟨[], by simp [earlier], later.symm⟩)
      · obtain ⟨rfl, rest⟩ := List.cons.inj later
        exact Or.inr (Or.inl ⟨earlier, rest.symm⟩)
      · obtain ⟨rfl, next⟩ := List.cons.inj later
        obtain ⟨rfl, follows⟩ := List.cons.inj next
        exact Or.inl ⟨rest, earlier, follows⟩
  · rintro (⟨middle, rfl, rfl⟩ | ⟨rfl, rfl⟩ | ⟨middle, rfl, rfl⟩) <;> simp

theorem pair_prefix_cons {a b c : Char} {t : Text} :
    [a, b] <+: c :: t ↔ c = a ∧ t.head? = some b := by
  constructor
  · rintro ⟨after, same⟩
    cases same
    exact ⟨rfl, rfl⟩
  · rintro ⟨rfl, second⟩
    obtain ⟨after, rfl⟩ := List.head?_eq_some_iff.mp second
    exact ⟨after, rfl⟩

theorem pair_infix_iff {a b : Char} {t : Text} :
    [a, b] <:+: t ↔ ∃ before after, t = before ++ a :: b :: after := by
  constructor
  · rintro ⟨before, after, rfl⟩
    exact ⟨before, after, by simp⟩
  · rintro ⟨before, after, rfl⟩
    exact ⟨before, after, by simp⟩

theorem pair_infix_append {a b : Char} {first second : Text} :
    [a, b] <:+: first ++ second ↔
      [a, b] <:+: first ∨ [a, b] <:+: second ∨
        (first.getLast? = some a ∧ second.head? = some b) := by
  simp only [pair_infix_iff, append_eq_append_pair]
  constructor
  · rintro ⟨before, after, ⟨middle, inside, _⟩ | ⟨rfl, rfl⟩ | ⟨middle, _, inside⟩⟩
    · exact Or.inl ⟨before, middle, inside⟩
    · exact Or.inr (Or.inr ⟨by simp, rfl⟩)
    · exact Or.inr (Or.inl ⟨middle, after, inside⟩)
  · rintro (⟨before, middle, inside⟩ | ⟨middle, after, inside⟩ | ⟨last, head⟩)
    · exact ⟨before, _, Or.inl ⟨middle, inside, rfl⟩⟩
    · exact ⟨_, after, Or.inr (Or.inr ⟨middle, rfl, inside⟩)⟩
    · obtain ⟨before, ends⟩ := List.getLast?_eq_some_iff.mp last
      obtain ⟨after, starts⟩ := List.head?_eq_some_iff.mp head
      exact ⟨before, after, Or.inr (Or.inl ⟨ends, starts⟩)⟩

theorem pair_infix_cons {a b c : Char} (other : c ≠ a) {t : Text} :
    [a, b] <:+: c :: t ↔ [a, b] <:+: t := by
  rw [List.infix_cons_iff, List.cons_prefix_cons]
  simp [other.symm]

theorem pair_infix_append_cons {a b c : Char} (first : c ≠ a) (second : c ≠ b) {before after : Text} :
    [a, b] <:+: before ++ c :: after ↔ [a, b] <:+: before ∨ [a, b] <:+: after := by
  rw [pair_infix_append, pair_infix_cons first]
  simp [second]

theorem not_infix_of_not_mem {mark t : Text} {c : Char} (member : c ∈ mark) (absent : c ∉ t) :
    ¬mark <:+: t :=
  fun inside => absent (inside.subset member)

theorem pair_infix_append_of_not_mem {a b : Char} {first second : Text} (absent : a ∉ first) :
    [a, b] <:+: first ++ second ↔ [a, b] <:+: second := by
  rw [pair_infix_append]
  constructor
  · rintro (within | later | ⟨last, _⟩)
    · exact absurd within (not_infix_of_not_mem (by simp) absent)
    · exact later
    · exact absurd (List.mem_of_getLast? last) absent
  · intro later
    exact Or.inr (Or.inl later)

theorem cut?_of_not_mem {m : Char} (others : Text) {before : Text} (absent : m ∉ before)
    (after : Text) : cut? (m :: others) (before ++ m :: others ++ after) = some (before, after) := by
  refine (cut?_eq_some_iff (by simp)).mpr ⟨rfl, ?_⟩
  intro early late same
  by_contra earlier
  have front : early ++ [m] <+: before := by
    have one : early ++ [m] <+: before ++ m :: others ++ after := ⟨others ++ late, by simp [same]⟩
    have other : before <+: before ++ m :: others ++ after := ⟨m :: others ++ after, by simp⟩
    refine List.prefix_of_prefix_length_le one other ?_
    rw [List.length_append, List.length_singleton]
    omega
  exact absent (front.subset (by simp))

theorem cut?_char_eq_some {m : Char} {t before after : Text}
    (found : cut? [m] t = some (before, after)) : t = before ++ m :: after ∧ m ∉ before := by
  obtain ⟨rfl, leftmost⟩ := cut?_eq_some found
  refine ⟨by simp, ?_⟩
  intro inside
  obtain ⟨early, late, rfl⟩ := List.append_of_mem inside
  have earlier := leftmost early (late ++ [m] ++ after) (by simp)
  rw [List.length_append, List.length_cons] at earlier
  omega

theorem leftmost_pair {a b : Char} {before : Text} (absent : ¬[a, b] <:+: before ++ [a])
    (after : Text) : Leftmost [a, b] before after := by
  intro early late same
  by_contra earlier
  have front : early ++ [a, b] <+: before ++ [a] := by
    have one : early ++ [a, b] <+: before ++ [a, b] ++ after := ⟨late, same.symm⟩
    have other : before ++ [a] <+: before ++ [a, b] ++ after := ⟨b :: after, by simp⟩
    refine List.prefix_of_prefix_length_le one other ?_
    simp only [List.length_append, List.length_cons, List.length_nil]
    omega
  exact absent ⟨early, front.choose, front.choose_spec⟩

theorem cut?_pair {a b : Char} (different : a ≠ b) {before : Text} (absent : ¬[a, b] <:+: before)
    (after : Text) : cut? [a, b] (before ++ [a, b] ++ after) = some (before, after) := by
  refine (cut?_eq_some_iff (by simp)).mpr ⟨rfl, leftmost_pair ?_ after⟩
  intro inside
  rcases pair_infix_append.mp inside with within | single | ⟨_, joint⟩
  · exact absent within
  · simp [List.infix_cons_iff] at single
  · exact different (by simpa using joint)

end Knotwork.Text
