import Knotwork.Proofs.Cutting
import Knotwork.Proofs.Reading

/-! The grammar of conditions, told without the reader: pieces between signs of conjunction, each a
name, a sign and a truth value with blanks around them. Main statement: the reader accepts exactly the
texts of this grammar, a piece is put together in one way only, and every other text is refused. -/

namespace Knotwork

theorem Text.toBool?_eq_some_iff {word : Text} {value : Bool} :
    toBool? word = some value ↔ word = ofBool value := by
  constructor
  · intro known
    unfold toBool? at known
    split at known
    · rename_i same
      cases known
      exact same
    · split at known
      · rename_i same
        cases known
        exact same
      · cases known
  · rintro rfl
    exact toBool?_ofBool value

theorem Text.trim_ofBool (value : Bool) : trim (ofBool value) = ofBool value := by
  cases value <;> decide

theorem Text.ofBool_ne_nil (value : Bool) : ofBool value ≠ [] := by
  cases value <;> decide

theorem Text.equals_not_mem_ofBool (value : Bool) : '=' ∉ ofBool value := by
  cases value <;> decide

theorem checkName_eq_ok_iff {grammar : Grammar} {source name checked : Text} :
    checkName grammar source name = .ok checked ↔
      checked = name ∧ name ≠ [] ∧ ∀ mark ∈ reservedMarks, mark ∉ name := by
  refine ⟨checkName_eq_ok, ?_⟩
  rintro ⟨rfl, nonempty, unreserved⟩
  have none : reservedIn checked = [] :=
    List.filter_eq_nil_iff.mpr fun mark reserved => by simpa using unreserved mark reserved
  rw [checkName, if_neg nonempty, none]

theorem grammar_of_checkName {grammar : Grammar} {source name : Text} {error : ParseError}
    (failed : checkName grammar source name = .error error) : error.grammar = grammar := by
  unfold checkName at failed
  split at failed
  · cases failed
    rfl
  · split at failed
    · cases failed
    · cases failed
      rfl

instance (name : Text) : Decidable (VariableName name) :=
  decidable_of_iff
    (name ≠ [] ∧ name.trim = name ∧ (reservedMarks.all fun mark => !name.contains mark) = true)
    ⟨fun ⟨nonempty, trimmed, unreserved⟩ => ⟨nonempty, trimmed, by simpa using unreserved⟩,
      fun valid => ⟨valid.nonempty, valid.trimmed, by simpa using valid.unreserved⟩⟩

theorem VariableName.equals_not_mem {name : Text} (valid : VariableName name) : '=' ∉ name :=
  valid.unreserved '=' (by decide)

namespace Comparison

def sign (negated : Bool) : Text := if negated then ['!', '='] else ['=', '=']

/-- How a comparison is written: name, sign and truth value, with blanks before and after each. A
sign of equality does not stand right after an exclamation mark, where it would be taken for a sign of
difference. -/
@[ext] structure Layout where
  lead : Text
  name : Text
  gap : Text
  negated : Bool
  space : Text
  expected : Bool
  tail : Text
  leadBlank : lead.Blank
  gapBlank : gap.Blank
  spaceBlank : space.Blank
  tailBlank : tail.Blank
  named : VariableName name
  distinct : negated = false → gap = [] → name.getLast? ≠ some '!'

namespace Layout

def text (layout : Layout) : Text :=
  layout.lead ++ layout.name ++ layout.gap ++ sign layout.negated ++ layout.space ++
    Text.ofBool layout.expected ++ layout.tail

def comparison (layout : Layout) : Comparison := ⟨layout.name, layout.negated, layout.expected⟩

def left (layout : Layout) : Text := layout.name ++ layout.gap

def right (layout : Layout) : Text := layout.space ++ Text.ofBool layout.expected

theorem text_eq (layout : Layout) :
    layout.text =
      layout.lead ++ (layout.left ++ sign layout.negated ++ layout.right) ++ layout.tail := by
  simp [text, left, right]

theorem trim_left (layout : Layout) : layout.left.trim = layout.name := by
  rw [left, Text.trim_append_blank layout.gapBlank, layout.named.trimmed]

theorem trim_right (layout : Layout) : layout.right.trim = Text.ofBool layout.expected := by
  rw [right, Text.trim_blank_append layout.spaceBlank, Text.trim_ofBool]

theorem trim_text (layout : Layout) :
    layout.text.trim = layout.left ++ sign layout.negated ++ layout.right := by
  have ended : Text.trimEnd (layout.gap ++ sign layout.negated ++ layout.right) =
      layout.gap ++ sign layout.negated ++ layout.right := by
    rw [right, ← List.append_assoc, Text.trimEnd_append,
      Text.trimEnd_of_trimmed (Text.trim_ofBool _), if_neg (Text.ofBool_ne_nil _)]
  have started :=
    Text.trim_trimmed_append layout.named.trimmed layout.named.nonempty
      (layout.gap ++ sign layout.negated ++ layout.right)
  rw [ended] at started
  rw [text_eq, Text.trim_blanks layout.leadBlank layout.tailBlank, left, List.append_assoc,
    List.append_assoc, ← List.append_assoc layout.gap]
  exact started

theorem trim_text_ne_nil (layout : Layout) : layout.text.trim ≠ [] := by
  simp [trim_text, left, layout.named.nonempty]

theorem equals_not_mem_left (layout : Layout) : '=' ∉ layout.left := by
  intro member
  rcases List.mem_append.mp member with within | after
  · exact layout.named.equals_not_mem within
  · exact layout.gapBlank.not_mem (by decide) after

theorem equals_not_mem_right (layout : Layout) : '=' ∉ layout.right := by
  intro member
  rcases List.mem_append.mp member with before | within
  · exact layout.spaceBlank.not_mem (by decide) before
  · exact Text.equals_not_mem_ofBool _ within

theorem getLast?_left (layout : Layout) (equality : layout.negated = false) :
    layout.left.getLast? ≠ some '!' := by
  intro last
  by_cases tight : layout.gap = []
  · rw [left, tight, List.append_nil] at last
    exact layout.distinct equality tight last
  · rw [left, List.getLast?_append_of_ne_nil _ tight] at last
    exact layout.gapBlank.not_mem (by decide) (List.mem_of_getLast? last)

theorem cut?_of_negated (layout : Layout) (difference : layout.negated = true) :
    Text.cut? ['!', '='] layout.text.trim = some (layout.left, layout.right) := by
  rw [layout.trim_text, difference]
  exact Text.cut?_pair (by decide)
    (Text.not_infix_of_not_mem (by decide) layout.equals_not_mem_left) _

theorem cut?_of_not_negated (layout : Layout) (equality : layout.negated = false) :
    Text.cut? ['!', '='] layout.text.trim = none ∧
      Text.cut? ['=', '='] layout.text.trim = some (layout.left, layout.right) := by
  rw [layout.trim_text, equality]
  refine ⟨(Text.cut?_eq_none_iff (by simp)).mpr ?_,
    Text.cut?_of_not_mem _ layout.equals_not_mem_left _⟩
  intro inside
  -- A sign of difference has an equals sign in it, and the only ones are those of the sign itself.
  rcases Text.pair_infix_append.mp inside with before | after | ⟨last, _⟩
  · rcases Text.pair_infix_append.mp before with within | within | ⟨last, _⟩
    · exact Text.not_infix_of_not_mem (by decide) layout.equals_not_mem_left within
    · exact absurd within (by decide)
    · exact layout.getLast?_left equality last
  · exact Text.not_infix_of_not_mem (by decide) layout.equals_not_mem_right after
  · simp [sign] at last

theorem text_injective : Function.Injective text := by
  intro one other same
  have trims : one.text.trim = other.text.trim := congrArg Text.trim same
  have sides : one.negated = other.negated ∧ (one.left, one.right) = (other.left, other.right) := by
    cases oneSign : one.negated <;> cases otherSign : other.negated
    · have found := (one.cut?_of_not_negated oneSign).2
      rw [trims, (other.cut?_of_not_negated otherSign).2] at found
      exact ⟨rfl, (Option.some.inj found).symm⟩
    · have found := (one.cut?_of_not_negated oneSign).1
      rw [trims, other.cut?_of_negated otherSign] at found
      cases found
    · have found := one.cut?_of_negated oneSign
      rw [trims, (other.cut?_of_not_negated otherSign).1] at found
      cases found
    · have found := one.cut?_of_negated oneSign
      rw [trims, other.cut?_of_negated otherSign] at found
      exact ⟨rfl, (Option.some.inj found).symm⟩
  obtain ⟨signs, sides⟩ := sides
  obtain ⟨lefts, rights⟩ := Prod.mk.inj sides
  obtain ⟨leads, _, tails⟩ := Text.blanks_inj one.leadBlank one.tailBlank (Text.trim_trim one.text)
    one.trim_text_ne_nil other.leadBlank other.tailBlank (Text.trim_trim other.text)
    (by rw [trim_text, trim_text, ← text_eq, ← text_eq, same])
  obtain ⟨_, names, gaps⟩ := Text.blanks_inj Text.blank_nil one.gapBlank one.named.trimmed
    one.named.nonempty Text.blank_nil other.gapBlank other.named.trimmed lefts
  obtain ⟨spaces, words, _⟩ := Text.blanks_inj one.spaceBlank Text.blank_nil
    (Text.trim_ofBool _) (Text.ofBool_ne_nil _) other.spaceBlank Text.blank_nil
    (Text.trim_ofBool _) (by rw [List.append_nil, List.append_nil]; exact rights)
  have values := congrArg Text.toBool? words
  rw [Text.toBool?_ofBool, Text.toBool?_ofBool] at values
  exact Layout.ext leads names gaps signs spaces (Option.some.inj values) tails

end Layout

def Spells (piece : Text) (comparison : Comparison) : Prop :=
  ∃ layout : Layout, layout.text = piece ∧ layout.comparison = comparison

theorem ofSides_eq_ok_iff {source left right : Text} {negated : Bool} {comparison : Comparison} :
    ofSides source negated left right = .ok comparison ↔
      VariableName comparison.name ∧ comparison.name = left.trim ∧
        comparison.negated = negated ∧ right.trim = Text.ofBool comparison.expected := by
  unfold ofSides
  constructor
  · intro accepted
    split at accepted
    · cases accepted
    · obtain ⟨name, checked, accepted⟩ := Except.bind_eq_ok.mp accepted
      have valid := variableName_of_checkName checked
      have same := (checkName_eq_ok checked).1
      split at accepted
      · rename_i value known
        cases accepted
        exact ⟨valid, same, rfl, Text.toBool?_eq_some_iff.mp known⟩
      · cases accepted
  · rintro ⟨valid, same, rfl, word⟩
    rw [same] at valid
    have checked : checkName .condition source left.trim = .ok left.trim :=
      checkName_eq_ok_iff.mpr ⟨rfl, valid.nonempty, valid.unreserved⟩
    rw [if_neg valid.nonempty, checked, word, Text.toBool?_ofBool, ← same]
    rfl

theorem read_of_layout (source : Text) (layout : Layout) :
    read source layout.text.trim = .ok layout.comparison := by
  have sides : ofSides source layout.negated layout.left layout.right = .ok layout.comparison :=
    ofSides_eq_ok_iff.mpr ⟨layout.named, layout.trim_left.symm, rfl, layout.trim_right⟩
  unfold read
  cases sign : layout.negated with
  | true =>
      rw [layout.cut?_of_negated sign]
      rwa [sign] at sides
  | false =>
      obtain ⟨noDifference, equality⟩ := layout.cut?_of_not_negated sign
      rw [noDifference, equality]
      rwa [sign] at sides

theorem spells_of_sides {piece left right : Text} {comparison : Comparison}
    (split : piece.trim = left ++ sign comparison.negated ++ right)
    (valid : VariableName comparison.name) (name : comparison.name = left.trim)
    (word : right.trim = Text.ofBool comparison.expected)
    (distinct : comparison.negated = false → ¬['!', '='] <:+: piece.trim) :
    Spells piece comparison := by
  obtain ⟨lead, tail, leadBlank, tailBlank, around⟩ := Text.exists_blanks piece
  obtain ⟨before, gap, beforeBlank, gapBlank, leftSplit⟩ := Text.exists_blanks left
  obtain ⟨space, after, spaceBlank, afterBlank, rightSplit⟩ := Text.exists_blanks right
  rw [← name] at leftSplit
  rw [word] at rightSplit
  have apart : comparison.negated = false → gap = [] → comparison.name.getLast? ≠ some '!' := by
    intro equality tight last
    apply distinct equality
    have joint : (before ++ comparison.name).getLast? = some '!' := by
      rw [List.getLast?_append_of_ne_nil _ valid.nonempty, last]
    rw [split, leftSplit, tight, equality, List.append_nil]
    exact Text.pair_infix_append.mpr
      (Or.inl (Text.pair_infix_append.mpr (Or.inr (Or.inr ⟨joint, by simp [sign]⟩))))
  have spelled : lead ++ before ++ comparison.name ++ gap ++ sign comparison.negated ++ space ++
      Text.ofBool comparison.expected ++ (after ++ tail) = piece := by
    rw [around, split, leftSplit, rightSplit]
    simp
  exact ⟨{ lead := lead ++ before, name := comparison.name, gap, negated := comparison.negated,
           space, expected := comparison.expected, tail := after ++ tail,
           leadBlank := List.forall_mem_append.mpr ⟨leadBlank, beforeBlank⟩, gapBlank, spaceBlank,
           tailBlank := List.forall_mem_append.mpr ⟨afterBlank, tailBlank⟩, named := valid,
           distinct := apart },
    spelled, rfl⟩

theorem spells_of_read {source piece : Text} {comparison : Comparison}
    (accepted : read source piece.trim = .ok comparison) : Spells piece comparison := by
  unfold read at accepted
  split at accepted
  · rename_i left right found
    obtain ⟨valid, name, negated, word⟩ := ofSides_eq_ok_iff.mp accepted
    refine spells_of_sides ?_ valid name word (by simp [negated])
    rw [negated]
    exact (Text.cut?_eq_some found).1
  · rename_i noDifference
    split at accepted
    · rename_i left right found
      obtain ⟨valid, name, equality, word⟩ := ofSides_eq_ok_iff.mp accepted
      refine spells_of_sides ?_ valid name word fun _ =>
        (Text.cut?_eq_none_iff (by simp)).mp noDifference
      rw [equality]
      exact (Text.cut?_eq_some found).1
    · cases accepted

theorem grammar_of_ofSides {source left right : Text} {negated : Bool} {error : ParseError}
    (failed : ofSides source negated left right = .error error) : error.grammar = .condition := by
  unfold ofSides at failed
  split at failed
  · cases failed
    rfl
  · cases checked : checkName .condition source left.trim with
    | error reason =>
        rw [checked] at failed
        cases failed
        exact grammar_of_checkName checked
    | ok name =>
        simp only [checked, bind, Except.bind] at failed
        split at failed
        · cases failed
        · cases failed
          rfl

theorem grammar_of_read {source part : Text} {error : ParseError}
    (failed : read source part = .error error) : error.grammar = .condition := by
  unfold read at failed
  split at failed
  · exact grammar_of_ofSides failed
  · split at failed
    · exact grammar_of_ofSides failed
    · cases failed
      rfl

end Comparison

namespace Condition

theorem readPart_eq_ok_iff {source piece : Text} {comparison : Comparison} :
    readPart source piece = .ok comparison ↔ Comparison.Spells piece comparison := by
  unfold readPart
  constructor
  · intro accepted
    split at accepted
    · cases accepted
    · exact Comparison.spells_of_read accepted
  · rintro ⟨layout, rfl, rfl⟩
    rw [if_neg layout.trim_text_ne_nil, Comparison.read_of_layout]

/-- What the grammar takes a text for: a blank one for the empty condition, and any other one for the
comparisons that are spelled between its signs of conjunction. -/
def Written (source : Text) (condition : Condition) : Prop :=
  if source.Blank then condition = ⟨[]⟩
  else ∃ pieces, Text.Cuts ['&', '&'] source pieces ∧
    List.Forall₂ Comparison.Spells pieces condition.comparisons

theorem read_eq_ok_iff {source : Text} {condition : Condition} :
    read source = .ok condition ↔ condition.Written source := by
  unfold read Written
  by_cases blank : source.Blank
  · rw [if_pos (Text.trim_eq_nil_iff.mpr blank), if_pos blank, Except.ok.injEq, eq_comm]
  · rw [if_neg (mt Text.trim_eq_nil_iff.mp blank), if_neg blank, Except.bind_eq_ok]
    simp only [mapM_eq_ok_iff, readPart_eq_ok_iff]
    constructor
    · rintro ⟨comparisons, spelled, same⟩
      cases same
      exact ⟨_, Text.cuts_splitOn (by simp) source, spelled⟩
    · rintro ⟨pieces, cuts, spelled⟩
      rw [← (Text.cuts_iff (by simp)).mp cuts] at spelled
      exact ⟨condition.comparisons, spelled, rfl⟩

theorem grammar_of_error {source : Text} {error : ParseError}
    (failed : read source = .error error) : error.grammar = .condition := by
  unfold read at failed
  split at failed
  · cases failed
  · cases parts : (Text.splitOn ['&', '&'] source).mapM (readPart source) with
    | ok comparisons =>
        rw [parts] at failed
        cases failed
    | error reason =>
        rw [parts] at failed
        cases failed
        obtain ⟨piece, _, refused⟩ := exists_of_mapM_eq_error parts
        unfold readPart at refused
        split at refused
        · cases refused
          rfl
        · exact Comparison.grammar_of_read refused

theorem written_empty_iff {source : Text} : Written source ⟨[]⟩ ↔ source.Blank := by
  unfold Written
  split
  · rename_i blank
    exact iff_of_true rfl blank
  · rename_i visible
    refine iff_of_false ?_ visible
    rintro ⟨pieces, cuts, spelled⟩
    cases spelled
    cases cuts

end Condition

/-- Conditions are read by their grammar: blank text and no other is the empty condition, a text is read
as a condition exactly if it is written for it, a piece of it is put together in one way only, and a
text that is written for no condition is refused as a faulty one. -/
theorem conditions_follow_grammar (source : Text) :
    (Condition.read source = .ok ⟨[]⟩ ↔ source.Blank) ∧
      (∀ condition, Condition.read source = .ok condition ↔ Condition.Written source condition) ∧
      Function.Injective Comparison.Layout.text ∧
      ((∃ error, Condition.read source = .error error ∧ error.grammar = .condition) ↔
        ∀ condition, ¬Condition.Written source condition) := by
  refine ⟨?_, fun _ => Condition.read_eq_ok_iff, Comparison.Layout.text_injective, ?_, ?_⟩
  · rw [Condition.read_eq_ok_iff, Condition.written_empty_iff]
  · rintro ⟨error, refused, _⟩ condition written
    rw [Condition.read_eq_ok_iff.mpr written] at refused
    cases refused
  · intro unwritten
    cases outcome : Condition.read source with
    | ok condition => exact absurd (Condition.read_eq_ok_iff.mp outcome) (unwritten condition)
    | error error => exact ⟨error, rfl, Condition.grammar_of_error outcome⟩

-- A blank keeps an exclamation mark apart from a sign of equality.
example : Condition.read "a! == true" = .ok ⟨[⟨"a!", false, true⟩]⟩ := by decide +kernel

example : (Condition.read "a!== true").toOption = none := by decide +kernel

end Knotwork
