import Knotwork.Proofs.Grammar

/-! The line of a choice, put together from its parts. Main statement: reading the line gives the parts
back, whichever of them are left out. -/

namespace Knotwork

namespace Text

theorem map_trim_splitOn_of_blank {mark : Char} (visible : isBlank mark = false) {lead : Text}
    (blank : lead.Blank) (t : Text) :
    (splitOn [mark] (lead ++ t)).map trim = (splitOn [mark] t).map trim := by
  induction lead with
  | nil => rfl
  | cons c rest ih =>
      have here : isBlank c = true := blank c (by simp)
      have other : c ≠ mark := by
        rintro rfl
        rw [here] at visible
        cases visible
      obtain ⟨piece, others, pieces⟩ :=
        List.exists_cons_of_ne_nil (splitOn_ne_nil [mark] (rest ++ t))
      rw [← ih fun d member => blank d (by simp [member]), List.cons_append, splitOn_char_cons,
        if_neg other, pieces, consFirst, List.map_cons, List.map_cons, trim_cons_of_isBlank here]

theorem map_trim_splitOn_trimStart {mark : Char} (visible : isBlank mark = false) (t : Text) :
    (splitOn [mark] (trimStart t)).map trim = (splitOn [mark] t).map trim := by
  obtain ⟨lead, blank, split⟩ := exists_trimStart t
  have same := map_trim_splitOn_of_blank visible blank (trimStart t)
  rw [← split] at same
  exact same.symm

theorem trim_dropMark {mark : Char} (visible : isBlank mark = false) (rest : Text) :
    trim (dropMark [mark] (trim (mark :: rest))) = trim rest := by
  have single : trim [mark] = [mark] := by simp [trim, trimStart, trimEnd, visible]
  have ended := trim_trimmed_append single (by simp) rest
  rw [List.singleton_append] at ended
  rw [ended, dropMark, List.singleton_append]
  simp [List.isPrefixOf?, trim_trimEnd]

end Text

namespace Change

theorem render_eq (change : Change) :
    change.render = change.name ++ [' '] ++ '=' :: ' ' :: Text.ofBool change.value := by
  have sign : (" = " : Text) = [' ', '=', ' '] := by decide
  simp [render, sign]

theorem render_ne_nil (change : Change) : change.render ≠ [] := by simp [render_eq]

theorem trim_render {change : Change} (named : VariableName change.name) :
    change.render.trim = change.render := by
  have ended : Text.trimEnd ([' ', '=', ' '] ++ Text.ofBool change.value) =
      [' ', '=', ' '] ++ Text.ofBool change.value := by
    rw [Text.trimEnd_append, Text.trimEnd_of_trimmed (Text.trim_ofBool _),
      if_neg (Text.ofBool_ne_nil _)]
  have written : change.render = change.name ++ ([' ', '=', ' '] ++ Text.ofBool change.value) := by
    simp [render_eq]
  rw [written, Text.trim_trimmed_append named.trimmed named.nonempty, ended]

def clause (change : Change) : Text := ' ' :: '~' :: ' ' :: change.render

theorem tilde_not_mem_render {change : Change} (absent : '~' ∉ change.name) :
    '~' ∉ change.render := by
  have word : '~' ∉ Text.ofBool change.value := by cases change.value <;> decide
  simp [render_eq, absent, word]

theorem arrow_not_infix_append_clause {change : Change} (absent : ¬['-', '>'] <:+: change.name)
    {before : Text} (clear : ¬['-', '>'] <:+: before) : ¬['-', '>'] <:+: before ++ change.clause := by
  have word : ¬['-', '>'] <:+: Text.ofBool change.value := by cases change.value <;> decide
  simp [clause, render_eq, Text.pair_infix_append_cons, Text.pair_infix_cons, clear, absent, word]

theorem arrow_not_infix_append_clauses {changes : List Change}
    (absent : ∀ change ∈ changes, ¬['-', '>'] <:+: change.name) {before : Text}
    (clear : ¬['-', '>'] <:+: before) : ¬['-', '>'] <:+: before ++ changes.flatMap clause := by
  induction changes generalizing before with
  | nil => simpa using clear
  | cons change rest ih =>
      obtain ⟨here, others⟩ := List.forall_mem_cons.mp absent
      rw [List.flatMap_cons, ← List.append_assoc]
      exact ih others (arrow_not_infix_append_clause here clear)

theorem read_of_trim_eq {source : Text} {change : Change} (named : VariableName change.name)
    (written : source.trim = change.render) : read source = .ok change := by
  obtain ⟨lead, tail, leadBlank, tailBlank, split⟩ := Text.exists_blanks source
  have left : Text.trim (lead ++ change.name ++ [' ']) = change.name := by
    rw [Text.trim_blanks leadBlank (by decide), named.trimmed]
  have right : Text.trim ([' '] ++ Text.ofBool change.value ++ tail) = Text.ofBool change.value := by
    rw [Text.trim_blanks (by decide) tailBlank, Text.trim_ofBool]
  have absent : '=' ∉ lead ++ change.name ++ [' '] := by
    have before := leadBlank.not_mem (c := '=') (by decide)
    simp [before, named.equals_not_mem]
  have cut : Text.cut? ['='] source =
      some (lead ++ change.name ++ [' '], [' '] ++ Text.ofBool change.value ++ tail) := by
    have found := Text.cut?_append '=' (lead ++ change.name ++ [' '])
      ([' '] ++ Text.ofBool change.value ++ tail) absent
    rw [← found, split, written, render_eq]
    simp
  have checked : checkName .script source change.name = .ok change.name :=
    checkName_eq_ok_iff.mpr ⟨rfl, named.nonempty, named.unreserved⟩
  unfold read
  rw [cut]
  simp only [left, right, named.nonempty, if_false, Text.toBool?_ofBool, checked]
  rfl

end Change

theorem readChanges_of_map_trim {sources : List Text} {changes : List Change}
    (named : ∀ change ∈ changes, VariableName change.name)
    (written : sources.map Text.trim = changes.map Change.render) :
    readChanges sources = .ok changes := by
  have each : List.Forall₂ (fun source change => Change.read source = .ok change) sources changes := by
    induction changes generalizing sources with
    | nil =>
        rw [List.map_eq_nil_iff.mp written]
        exact .nil
    | cons change rest ih =>
        obtain ⟨source, others, rfl, first, later⟩ := List.map_eq_cons_iff.mp written
        have named := List.forall_mem_cons.mp named
        exact .cons (Change.read_of_trim_eq named.1 first) (ih named.2 later)
  have filled : ∀ source ∈ sources, decide (source.trim ≠ []) = true := by
    intro source member
    have trimmed : source.trim ∈ changes.map Change.render := by
      rw [← written]
      exact List.mem_map_of_mem member
    obtain ⟨change, _, same⟩ := List.mem_map.mp trimmed
    simp [← same, change.render_ne_nil]
  rw [readChanges, List.filter_eq_self.mpr filled]
  exact mapM_eq_ok_iff.mpr each

theorem map_trim_splitOn_clauses {changes : List Change}
    (each : ∀ change ∈ changes, VariableName change.name ∧ '~' ∉ change.name) {head tail : Text}
    (absent : '~' ∉ head) (blank : tail.Blank) :
    (Text.splitOn ['~'] (head ++ changes.flatMap Change.clause ++ tail)).map Text.trim =
      head.trim :: changes.map Change.render := by
  induction changes generalizing head with
  | nil =>
      have whole : '~' ∉ head ++ tail := by
        simp [absent, blank.not_mem (c := '~') (by decide)]
      rw [List.flatMap_nil, List.append_nil, Text.splitOn_of_not_mem _ _ whole, List.map_singleton,
        Text.trim_append_blank blank, List.map_nil]
  | cons change rest ih =>
      obtain ⟨⟨named, plain⟩, others⟩ := List.forall_mem_cons.mp each
      have first : '~' ∉ head ++ [' '] := by simp [absent]
      have next : '~' ∉ ' ' :: change.render := by simp [Change.tilde_not_mem_render plain]
      have regroup : head ++ (change :: rest).flatMap Change.clause ++ tail =
          head ++ [' '] ++ '~' :: (' ' :: change.render ++ rest.flatMap Change.clause ++ tail) := by
        simp [Change.clause]
      rw [regroup, Text.splitOn_append _ _ _ first, List.map_cons, ih others next,
        Text.trim_append_blank (by decide), Text.trim_cons_of_isBlank (by decide),
        Change.trim_render named, List.map_cons]

theorem takeArrow_of_not_infix {source : Text} (absent : ¬['-', '>'] <:+: source) :
    takeArrow source = .ok (source, {}) := by
  rw [takeArrow, (Text.cut?_eq_none_iff (by simp)).mpr absent]

theorem takeArrow_append {before place : Text} (absent : ¬['-', '>'] <:+: before)
    (nonempty : place ≠ []) (trimmed : place.trim = place) :
    takeArrow (before ++ ['-', '>'] ++ ' ' :: place) =
      .ok (before, { target := (some place).filter fun place => place.head? ≠ some '.'
                     stitch := (some place).filter fun place => place.head? = some '.' }) := by
  have bare : Text.trim (' ' :: place) = place := by
    rw [Text.trim_cons_of_isBlank (by decide), trimmed]
  rw [takeArrow, Text.cut?_pair (by decide) absent]
  dsimp only
  rw [bare]
  split
  · exact absurd rfl nonempty
  · rfl
  · rename_i unpointed
    have other : place.head? ≠ some '.' := by
      intro pointed
      obtain ⟨rest, rfl⟩ := List.head?_eq_some_iff.mp pointed
      exact unpointed rest rfl
    simp [Option.filter, other]

theorem takeCondition_of_not_mem {source : Text} (absent : '{' ∉ source) :
    takeCondition source = .ok ([], source) := by
  rw [takeCondition, (Text.cut?_eq_none_iff (by simp)).mpr
    (Text.not_infix_of_not_mem (by simp) absent)]

theorem takeCondition_of_braces {before guard : Text} {condition : Condition}
    (readable : Condition.read guard.trim = .ok condition) (unopened : '{' ∉ before)
    (unclosed : '}' ∉ before) (inner : '}' ∉ guard) (after : Text) :
    takeCondition (before ++ '{' :: (guard ++ '}' :: after)) = .ok (guard.trim, before ++ after) := by
  have front : before.contains '}' = false := by simpa using unclosed
  rw [takeCondition, Text.cut?_append _ _ _ unopened]
  simp only [front, Text.cut?_append _ _ _ inner, readable, bind, Except.bind]
  rfl

theorem takeCondition_append {before guard : Text} (stored : StoredCondition guard)
    (unopened : '{' ∉ before) (unclosed : '}' ∉ before) (inner : '}' ∉ guard) (after : Text) :
    takeCondition (before ++ '{' :: (guard ++ '}' :: after)) = .ok (guard, before ++ after) := by
  obtain ⟨trimmed, condition, readable⟩ := stored
  have taken := takeCondition_of_braces (by rwa [trimmed]) unopened unclosed inner after
  rwa [trimmed] at taken

namespace Choice

/-- The parts of a choice as they are written, each of which may be left out. Only the destination may
hold the marks by which the parts are told from each other. -/
structure Parts where
  condition : Option Text
  text : Option Text
  changes : List Change
  destination : Option Text
  guarded : ∀ guard, condition = some guard →
    StoredCondition guard ∧ '}' ∉ guard ∧ '~' ∉ guard ∧ ¬['-', '>'] <:+: guard
  worded : ∀ words, text = some words →
    words.trim = words ∧ '~' ∉ words ∧ ¬['-', '>'] <:+: words ∧ (condition = none → '{' ∉ words)
  changing : ∀ change ∈ changes,
    VariableName change.name ∧ '~' ∉ change.name ∧ ¬['-', '>'] <:+: change.name
  leading : ∀ place, destination = some place → place ≠ [] ∧ place.trim = place
  filled : text.getD [] ≠ [] ∨ changes ≠ [] ∨ destination ≠ none

namespace Parts

variable (parts : Parts)

def head : Text :=
  (parts.condition.elim [] fun guard => ' ' :: '{' :: guard ++ ['}']) ++
    parts.text.elim [] fun words => ' ' :: words

def front : Text :=
  parts.head ++ parts.changes.flatMap Change.clause

def line : Text :=
  '*' :: parts.front ++ parts.destination.elim [] fun place => ' ' :: '-' :: '>' :: ' ' :: place

def choice : Choice :=
  { text := parts.text.getD []
    condition := parts.condition.getD []
    changes := parts.changes
    target := parts.destination.filter fun place => place.head? ≠ some '.'
    stitch := parts.destination.filter fun place => place.head? = some '.' }

theorem tilde_not_mem_head : '~' ∉ parts.head := by
  have guard : '~' ∉ parts.condition.elim [] fun guard => ' ' :: '{' :: guard ++ ['}'] := by
    cases given : parts.condition with
    | none => simp
    | some guard => simp [(parts.guarded guard given).2.2.1]
  have words : '~' ∉ parts.text.elim [] fun words => ' ' :: words := by
    cases given : parts.text with
    | none => simp
    | some words => simp [(parts.worded words given).2.1]
  rw [head, List.mem_append, not_or]
  exact ⟨guard, words⟩

theorem arrow_not_infix_head : ¬['-', '>'] <:+: parts.head := by
  rw [head]
  cases guarded : parts.condition with
  | none =>
      cases worded : parts.text with
      | none => simp
      | some words => simp [Text.pair_infix_cons, (parts.worded words worded).2.2.1]
  | some guard =>
      have clear := (parts.guarded guard guarded).2.2.2
      cases worded : parts.text with
      | none => simp [Text.pair_infix_append_cons, Text.pair_infix_cons, clear]
      | some words =>
          simp [Text.pair_infix_append_cons, Text.pair_infix_cons, clear,
            (parts.worded words worded).2.2.1]

theorem arrow_not_infix_front : ¬['-', '>'] <:+: parts.front :=
  Change.arrow_not_infix_append_clauses (fun change member => (parts.changing change member).2.2)
    parts.arrow_not_infix_head

theorem exists_trimmed_end (undirected : parts.destination = none) :
    ∃ before core : Text, parts.front = before ++ core ∧ core ≠ [] ∧ core.trim = core := by
  rcases List.eq_nil_or_concat parts.changes with unchanged | ⟨earlier, last, listed⟩
  · have worded : parts.text.getD [] ≠ [] := by
      simpa [unchanged, undirected] using parts.filled
    cases given : parts.text with
    | none => simp [given] at worded
    | some words =>
        rw [given, Option.getD_some] at worded
        have split : parts.front =
            (parts.condition.elim [] fun guard => ' ' :: '{' :: guard ++ ['}']) ++ [' '] ++ words := by
          simp [front, head, given, unchanged]
        exact ⟨_, words, split, worded, (parts.worded words given).1⟩
  · have member : last ∈ parts.changes := by simp [listed]
    have split : parts.front =
        parts.head ++ earlier.flatMap Change.clause ++ [' ', '~', ' '] ++ last.render := by
      simp [front, listed, Change.clause]
    exact ⟨_, last.render, split, last.render_ne_nil,
      Change.trim_render (parts.changing last member).1⟩

theorem trim_front (undirected : parts.destination = none) :
    parts.front.trim = Text.trimStart parts.front := by
  obtain ⟨before, core, split, nonempty, trimmed⟩ := parts.exists_trimmed_end undirected
  rw [split, Text.trim_append_trimmed trimmed nonempty, Text.trimStart_append,
    Text.trimStart_of_trimmed trimmed]
  split
  · rename_i nothing
    rw [nothing, List.nil_append]
  · rfl

theorem takeArrow_line :
    ∃ tail, Text.Blank tail ∧
      takeArrow (Text.dropMark ['*'] parts.line.trim).trim =
        .ok (Text.trimStart (parts.front ++ tail),
          { target := parts.choice.target, stitch := parts.choice.stitch }) := by
  rw [line, List.cons_append, Text.trim_dropMark (by decide), choice]
  cases given : parts.destination with
  | none =>
      refine ⟨[], Text.blank_nil, ?_⟩
      have absent : ¬['-', '>'] <:+: Text.trimStart parts.front := fun inside =>
        parts.arrow_not_infix_front (inside.trans (Text.trimStart_suffix _).isInfix)
      rw [Option.elim_none, List.append_nil, parts.trim_front given,
        takeArrow_of_not_infix absent]
      rfl
  | some place =>
      refine ⟨[' '], by decide, ?_⟩
      obtain ⟨nonempty, trimmed⟩ := parts.leading place given
      have arrow : Text.trim ('-' :: '>' :: ' ' :: place) = '-' :: '>' :: ' ' :: place :=
        Text.trim_append_trimmed trimmed nonempty ['-', '>', ' ']
      have absent : ¬['-', '>'] <:+: Text.trimStart (parts.front ++ [' ']) := by
        intro inside
        have within := inside.trans (Text.trimStart_suffix _).isInfix
        rw [Text.pair_infix_append_cons (by decide) (by decide)] at within
        simp [parts.arrow_not_infix_front] at within
      have taken := takeArrow_append absent nonempty trimmed
      rw [Option.elim_some, List.append_cons, Text.trim_append_trimmed arrow (by simp)]
      rw [List.append_assoc] at taken
      exact taken

theorem trim_words : Text.trim (parts.text.elim [] fun words => ' ' :: words) = parts.choice.text := by
  rw [choice]
  cases given : parts.text with
  | none => rfl
  | some words =>
      rw [Option.elim_some, Text.trim_cons_of_isBlank (by decide), (parts.worded words given).1]
      rfl

theorem takeCondition_of_trim_eq {piece : Text} (written : piece.trim = parts.head.trim) :
    ∃ rest, takeCondition piece = .ok (parts.choice.condition, rest) ∧
      rest.trim = parts.choice.text := by
  obtain ⟨lead, tail, leadBlank, tailBlank, split⟩ := Text.exists_blanks piece
  cases given : parts.condition with
  | none =>
      have text : piece.trim = parts.choice.text := by
        rw [written, head, given, Option.elim_none, List.nil_append, parts.trim_words]
      have unbraced : '{' ∉ parts.choice.text := by
        rw [choice]
        cases worded : parts.text with
        | none => simp
        | some words => exact (parts.worded words worded).2.2.2 given
      have absent : '{' ∉ piece := by
        rw [split, text]
        simp [leadBlank.not_mem (c := '{') (by decide), tailBlank.not_mem (c := '{') (by decide),
          unbraced]
      refine ⟨piece, ?_, text⟩
      rw [takeCondition_of_not_mem absent, choice, given]
      rfl
  | some guard =>
      obtain ⟨stored, inner, _⟩ := parts.guarded guard given
      have text := parts.trim_words
      generalize wordsGiven : (parts.text.elim [] fun words => ' ' :: words) = words at text
      have braces : Text.trim ('{' :: guard ++ ['}']) = '{' :: guard ++ ['}'] :=
        Text.trim_append_trimmed (by decide) (by simp) ('{' :: guard)
      have inside : piece = lead ++ '{' :: (guard ++ '}' :: (Text.trimEnd words ++ tail)) := by
        rw [split, written, head, given, wordsGiven, Option.elim_some, List.cons_append,
          List.cons_append, Text.trim_cons_of_isBlank (by decide),
          Text.trim_trimmed_append braces (by simp)]
        simp
      refine ⟨lead ++ (Text.trimEnd words ++ tail), ?_, ?_⟩
      · rw [inside, takeCondition_append stored (leadBlank.not_mem (by decide))
          (leadBlank.not_mem (by decide)) inner, choice, given]
        rfl
      · rw [← List.append_assoc, Text.trim_blanks leadBlank tailBlank, Text.trim_trimEnd, text]

theorem choice_not_empty :
    (parts.choice.text.isEmpty && parts.choice.target.isNone && parts.choice.stitch.isNone &&
      parts.choice.changes.isEmpty) = false := by
  rw [choice]
  rcases parts.filled with worded | changed | directed
  · simp [worded]
  · simp [changed]
  · obtain ⟨place, given⟩ := Option.ne_none_iff_exists'.mp directed
    by_cases pointed : place.head? = some '.' <;> simp [given, Option.filter, pointed]

end Parts

end Choice

/-- A choice that is put together from its parts is read back part by part. -/
theorem choice_reads_back (parts : Choice.Parts) : Choice.read parts.line = .ok parts.choice := by
  obtain ⟨tail, blank, arrowTaken⟩ := parts.takeArrow_line
  have pieces : (Text.splitOn ['~'] (Text.trimStart (parts.front ++ tail))).map Text.trim =
      parts.head.trim :: parts.changes.map Change.render := by
    rw [Text.map_trim_splitOn_trimStart (by decide)]
    exact map_trim_splitOn_clauses
      (fun change member => ⟨(parts.changing change member).1, (parts.changing change member).2.1⟩)
      parts.tilde_not_mem_head blank
  obtain ⟨piece, sources, split, first, later⟩ := List.map_eq_cons_iff.mp pieces
  have changesRead : readChanges sources = .ok parts.choice.changes :=
    readChanges_of_map_trim (fun change member => (parts.changing change member).1) later
  obtain ⟨rest, conditionTaken, text⟩ := parts.takeCondition_of_trim_eq first
  unfold Choice.read
  rw [arrowTaken]
  simp only [bind, Except.bind, split, List.tail_cons, List.headD_cons, changesRead,
    conditionTaken, text, parts.choice_not_empty]
  rfl

def stairParts : Choice.Parts where
  condition := some "lamp! == true"
  text := some "* Climb \x7d - > \x7bup -"
  changes := [⟨">lit-", true⟩, ⟨"dark", false⟩]
  destination := some ".stair ~ x -> y"
  guarded := by
    rintro _ ⟨⟩
    exact ⟨⟨by decide +kernel, ⟨[⟨"lamp!", false, true⟩]⟩, by decide +kernel⟩, by decide +kernel⟩
  worded := by
    rintro _ ⟨⟩
    exact ⟨by decide +kernel, by decide +kernel, by decide +kernel, by simp⟩
  changing := by
    intro change member
    rcases List.mem_pair.mp member with rfl | rfl
    · decide +kernel
    · decide +kernel
  leading := by
    rintro _ ⟨⟩
    exact ⟨by decide, by decide +kernel⟩
  filled := Or.inr (Or.inl (by decide))

def stairLine : Text :=
  "* \x7blamp! == true\x7d * Climb \x7d - > \x7bup -" ++
    " ~ >lit- = true ~ dark = false -> .stair ~ x -> y"

theorem choice_reads_back_stair :
    Choice.read stairLine =
      .ok { text := "* Climb \x7d - > \x7bup -", condition := "lamp! == true"
            changes := [⟨">lit-", true⟩, ⟨"dark", false⟩]
            target := none, stitch := some ".stair ~ x -> y".toList } := by
  have written : stairParts.line = stairLine := by decide +kernel
  rw [← written]
  exact choice_reads_back stairParts

end Knotwork
