import Knotwork.Diagram.Dot
import Knotwork.Proofs.Passages

/-! Diagrams in DOT, read back. Main statement: whatever texts a diagram holds, every box and every arc
has a line of its own, in order, from which its identities and its label can be read. -/

namespace Knotwork.Diagram.Dot

/-! Escapes. -/

def escapeChar (c : Char) : Text :=
  if c = '\\' then ['\\', '\\']
  else if c = '"' then ['\\', '"']
  else if c = '\n' then ['\\', 'n']
  else [c]

theorem escape_eq (t : Text) : escape t = t.flatMap escapeChar := by
  have backslash : ("\\\\" : Text) = ['\\', '\\'] := by decide
  have quote : ("\\\"" : Text) = ['\\', '"'] := by decide
  have newline : ("\\n" : Text) = ['\\', 'n'] := by decide
  rw [escape, Text.replace_char, Text.replace_char, Text.replace_char, List.flatMap_assoc,
    List.flatMap_assoc, backslash, quote, newline]
  congr 1
  funext c
  rw [escapeChar]
  by_cases first : c = '\\'
  · simp [first]
  · by_cases second : c = '"'
    · simp [second]
    · by_cases third : c = '\n'
      · simp [third]
      · simp [first, second, third]

theorem escape_cons (c : Char) (t : Text) : escape (c :: t) = escapeChar c ++ escape t := by
  rw [escape_eq, escape_eq, List.flatMap_cons]

theorem newline_not_mem_escape (t : Text) : '\n' ∉ escape t :=
  Text.not_mem_replace_char (by decide) _

/-! Reading a line. -/

inductive Token where
  | quoted (content : Text)
  | sign (c : Char)
deriving DecidableEq

def unescape? (c : Char) : Option Char :=
  if c = '\\' ∨ c = '"' then some c else if c = 'n' then some '\n' else none

/-- Reads a line, from outside of quotes or from inside of a text of which a part has been read. The
text goes up to the first quote that has no backslash before it. -/
def tokens : Option Text → Text → Option (List Token)
  | none, [] => some []
  | some _, [] => none
  | none, c :: rest =>
      if c = '"' then tokens (some []) rest else (tokens none rest).map (.sign c :: ·)
  | some read, '\\' :: c :: rest =>
      (unescape? c).bind fun meant => tokens (some (read ++ [meant])) rest
  | some read, c :: rest =>
      if c = '"' then (tokens none rest).map (.quoted read :: ·)
      else if c = '\\' then none
      else tokens (some (read ++ [c])) rest

theorem tokens_within {c : Char} (quote : c ≠ '"') (backslash : c ≠ '\\') (read rest : Text) :
    tokens (some read) (c :: rest) = tokens (some (read ++ [c])) rest := by
  rw [tokens.eq_def]
  split
  · rename_i same
    cases same
  · rename_i same
    cases same
  · rename_i same _
    cases same
  · rename_i same
    exact absurd (List.cons.inj same).1 backslash
  · rename_i given same
    cases given
    cases same
    rw [if_neg quote, if_neg backslash]

theorem tokens_escape (read t rest : Text) :
    tokens (some read) (escape t ++ '"' :: rest) =
      (tokens none rest).map (.quoted (read ++ t) :: ·) := by
  induction t generalizing read with
  | nil => simp [escape, tokens]
  | cons c t ih =>
      rw [escape_cons, escapeChar, List.append_cons read c t]
      split_ifs with first second third
      · simpa [first, tokens, unescape?] using ih (read ++ ['\\'])
      · simpa [second, tokens, unescape?] using ih (read ++ ['"'])
      · simpa [third, tokens, unescape?] using ih (read ++ ['\n'])
      · rw [← ih, List.append_assoc, List.singleton_append, tokens_within second first]

structure Spells (t : Text) (read : List Token) : Prop where
  reads : ∀ rest, tokens none (t ++ rest) = (tokens none rest).map (read ++ ·)
  unbroken : '\n' ∉ t

theorem spells_nil : Spells [] [] := ⟨fun _ => by simp, by simp⟩

theorem Spells.append {first second : Text} {read later : List Token} (left : Spells first read)
    (right : Spells second later) : Spells (first ++ second) (read ++ later) := by
  constructor
  · intro rest
    rw [List.append_assoc, left.reads, right.reads, Option.map_map]
    congr 1
    funext others
    simp
  · rw [List.mem_append, not_or]
    exact ⟨left.unbroken, right.unbroken⟩

theorem spells_sign {c : Char} (quote : c ≠ '"') (newline : c ≠ '\n') : Spells [c] [.sign c] := by
  constructor
  · intro rest
    rw [List.singleton_append, tokens, if_neg quote]
    rfl
  · simp [Ne.symm newline]

theorem spells_signs {t : Text} (quote : '"' ∉ t) (newline : '\n' ∉ t) :
    Spells t (t.map .sign) := by
  induction t with
  | nil => exact spells_nil
  | cons c rest ih =>
      simp only [List.mem_cons, not_or] at quote newline
      exact (spells_sign (Ne.symm quote.1) (Ne.symm newline.1)).append (ih quote.2 newline.2)

theorem spells_quote (t : Text) : Spells (quote t) [.quoted t] := by
  constructor
  · intro rest
    rw [quote, List.cons_append, List.cons_append, List.append_assoc, List.singleton_append, tokens,
      if_pos rfl, tokens_escape]
    rfl
  · simp [quote, newline_not_mem_escape]

theorem Spells.read {t : Text} {read : List Token} (spells : Spells t read) :
    tokens none t = some read := by
  have alone := spells.reads []
  simpa [tokens] using alone

/-! Attributes. -/

def attributes (line : List Token) : List (List Token × List Token) :=
  let inside := (line.dropWhile (· ≠ .sign '[')).tail.takeWhile (· ≠ .sign ']')
  (inside.splitOn (.sign ' ')).map fun item =>
    (item.takeWhile (· ≠ .sign '='), (item.dropWhile (· ≠ .sign '=')).tail)

def attribute? (name : Text) (line : List Token) : Option (List Token) :=
  (attributes line).lookup (name.map .sign)

def item (entry : Text × List Token) : List Token :=
  entry.1.map .sign ++ .sign '=' :: entry.2

structure Assigns (t : Text) (entry : Text × List Token) : Prop where
  spells : Spells t (item entry)
  name : .sign '=' ∉ entry.1.map Token.sign
  space : .sign ' ' ∉ item entry
  bracket : .sign ']' ∉ item entry

def Word (t : Text) : Prop := t.all Char.isAlpha = true

instance (t : Text) : Decidable (Word t) := inferInstanceAs (Decidable (_ = _))

theorem Word.not_mem {t : Text} (word : Word t) {c : Char} (other : c.isAlpha = false) : c ∉ t := by
  intro member
  have letter := List.all_eq_true.mp word c member
  rw [other] at letter
  cases letter

theorem Word.sign_not_mem {t : Text} (word : Word t) {c : Char} (other : c.isAlpha = false) :
    .sign c ∉ t.map Token.sign := by
  simp [word.not_mem other]

theorem Word.spells {t : Text} (word : Word t) : Spells t (t.map .sign) :=
  spells_signs (word.not_mem (by decide)) (word.not_mem (by decide))

theorem Word.sign_not_mem_item {name : Text} (word : Word name) {c : Char} (other : c.isAlpha = false)
    (differs : c ≠ '=') {read : List Token} (absent : .sign c ∉ read) :
    .sign c ∉ item (name, read) := by
  simp only [item, List.mem_append, List.mem_cons, Token.sign.injEq, not_or]
  exact ⟨word.sign_not_mem other, differs, absent⟩

theorem assigns {name value : Text} {read : List Token} (word : Word name) (spells : Spells value read)
    (space : .sign ' ' ∉ read) (bracket : .sign ']' ∉ read) : Assigns (assign name value) (name, read) where
  spells := by
    have written := (word.spells.append (spells_sign (c := '=') (by decide) (by decide))).append spells
    simpa [item, assign] using written
  name := word.sign_not_mem (by decide)
  space := word.sign_not_mem_item (by decide) (by decide) space
  bracket := word.sign_not_mem_item (by decide) (by decide) bracket

theorem assigns_quote {name : Text} (word : Word name) (t : Text) :
    Assigns (assign name (quote t)) (name, [.quoted t]) :=
  assigns word (spells_quote t) (by simp) (by simp)

theorem assigns_word {name value : Text} (word : Word name) (plain : Word value) :
    Assigns (assign name value) (name, value.map .sign) :=
  assigns word plain.spells (plain.sign_not_mem (by decide)) (plain.sign_not_mem (by decide))

theorem spells_joinWith {pieces : List Text} {written : List (Text × List Token)}
    (all : List.Forall₂ Assigns pieces written) :
    Spells (Text.joinWith [' '] pieces) ([.sign ' '].intercalate (written.map item)) := by
  induction all with
  | nil => exact spells_nil
  | @cons piece entry pieces written head tail ih =>
      cases tail with
      | nil => simpa [Text.joinWith, List.intercalate] using head.spells
      | cons next later =>
          rw [Text.joinWith_cons _ _ (by simp), List.map_cons,
            List.intercalate_cons_of_ne_nil (by simp)]
          exact (head.spells.append (spells_sign (by decide) (by decide))).append ih

theorem Assigns.divided {t : Text} {entry : Text × List Token} (assigned : Assigns t entry) :
    ((item entry).takeWhile (· ≠ .sign '='), ((item entry).dropWhile (· ≠ .sign '=')).tail) =
      (entry.1.map .sign, entry.2) := by
  rw [item, takeWhile_ne_append assigned.name, dropWhile_ne_append assigned.name, List.tail_cons]

theorem attributes_eq {front : List Token} (unopened : .sign '[' ∉ front) (back : List Token)
    {pieces : List Text} {written : List (Text × List Token)}
    (all : List.Forall₂ Assigns pieces written) (nonempty : written ≠ []) :
    attributes (front ++ .sign '[' :: ([.sign ' '].intercalate (written.map item) ++
        .sign ']' :: back)) =
      written.map fun entry => (entry.1.map .sign, entry.2) := by
  have clean : ∀ tokens ∈ written.map item, .sign ' ' ∉ tokens ∧ .sign ']' ∉ tokens := by
    intro tokens member
    obtain ⟨entry, listed, rfl⟩ := List.mem_map.mp member
    obtain ⟨_, _, assigned⟩ := exists_of_forall₂ all listed
    exact ⟨assigned.space, assigned.bracket⟩
  have unclosed : .sign ']' ∉ [.sign ' '].intercalate (written.map item) := by
    intro member
    rcases mem_intercalate member with same | ⟨tokens, listed, within⟩
    · cases same
    · exact (clean tokens listed).2 within
  rw [attributes, dropWhile_ne_append unopened, List.tail_cons, takeWhile_ne_append unclosed,
    List.splitOn_intercalate _ (fun tokens listed => (clean tokens listed).1) (by simpa using nonempty),
    List.map_map]
  apply List.map_congr_left
  intro entry listed
  obtain ⟨_, _, assigned⟩ := exists_of_forall₂ all listed
  exact assigned.divided

theorem lookup_map_sign (written : List (Text × List Token)) (name : Text) :
    (written.map fun entry => (entry.1.map Token.sign, entry.2)).lookup (name.map .sign) =
      written.lookup name := by
  have injective : Function.Injective (List.map Token.sign) :=
    List.map_injective_iff.mpr fun _ _ same => Token.sign.inj same
  induction written with
  | nil => rfl
  | cons entry rest ih =>
      obtain ⟨key, value⟩ := entry
      rw [List.map_cons, List.lookup_cons, List.lookup_cons, ih]
      by_cases same : name = key
      · simp [same]
      · have differs : (name.map Token.sign == key.map Token.sign) = false :=
          beq_eq_false_iff_ne.mpr fun mapped => same (injective mapped)
        rw [differs, beq_eq_false_iff_ne.mpr same]

def strokeEntries (drawn : Bool) (colour width : Text) : List (Text × List Token) :=
  if drawn then [("color".toList, [.quoted colour]), ("penwidth".toList, [.quoted width])] else []

theorem assigns_stroke (drawn : Bool) (colour width : Text) :
    List.Forall₂ Assigns
      (if drawn then [assign "color" (quote colour), assign "penwidth" (quote width)] else [])
      (strokeEntries drawn colour width) := by
  cases drawn with
  | false => exact .nil
  | true => exact .cons (assigns_quote (by decide) _) (.cons (assigns_quote (by decide) _) .nil)

theorem lookup_strokeEntries (drawn : Bool) (colour width : Text) :
    (strokeEntries drawn colour width).lookup "label".toList = none := by
  have color : ("label".toList == "color".toList) = false := by decide
  have penwidth : ("label".toList == "penwidth".toList) = false := by decide
  cases drawn with
  | false => rfl
  | true => simp only [strokeEntries, if_true, List.lookup_cons, color, penwidth, List.lookup_nil]

theorem assigns_boxAttributes (colours : Table Text) (box : Box) :
    ∃ others : List (Text × List Token), others.lookup "label".toList = none ∧
      List.Forall₂ Assigns (boxAttributes colours box)
        (others ++ [("label".toList, [.quoted box.label])]) := by
  obtain ⟨shape, fill, word, written⟩ : ∃ shape fill, Word shape ∧ boxAttributes colours box =
      [assign "shape" shape, assign "fillcolor" (quote fill)] ++
        (if box.isDeadEnd then
          [assign "color" (quote Palette.deadEnd), assign "penwidth" (quote "2.5")]
        else []) ++
        [assign "label" (quote box.label)] := by
    unfold boxAttributes
    by_cases start : box.isStart
    · rw [if_pos start]
      exact ⟨"doubleoctagon", _, by decide, rfl⟩
    · rw [if_neg start]
      by_cases ending : box.isEnding
      · rw [if_pos ending]
        exact ⟨"octagon", _, by decide, rfl⟩
      · rw [if_neg ending]
        exact ⟨"box", _, by decide, rfl⟩
  have shaped : List.Forall₂ Assigns [assign "shape" shape, assign "fillcolor" (quote fill)]
      [("shape".toList, shape.map .sign), ("fillcolor".toList, [.quoted fill])] :=
    .cons (assigns_word (by decide) word) (.cons (assigns_quote (by decide) fill) .nil)
  have labelled : List.Forall₂ Assigns [assign "label" (quote box.label)]
      [("label".toList, [.quoted box.label])] :=
    .cons (assigns_quote (by decide) box.label) .nil
  have stroke := assigns_stroke box.isDeadEnd Palette.deadEnd "2.5"
  refine ⟨[("shape".toList, shape.map .sign), ("fillcolor".toList, [.quoted fill])] ++
    strokeEntries box.isDeadEnd Palette.deadEnd "2.5", ?_, ?_⟩
  · have first : ("label".toList == "shape".toList) = false := by decide
    have second : ("label".toList == "fillcolor".toList) = false := by decide
    rw [List.lookup_append, lookup_strokeEntries]
    simp only [List.lookup_cons, first, second, List.lookup_nil, Option.or_none]
  · rw [written]
    exact List.rel_append (List.rel_append shaped stroke) labelled

theorem assigns_arcAttributes (labels : Bool) (arc : Arc) :
    ∃ written : List (Text × List Token),
      written.lookup "label".toList =
        (if labels = true ∧ arc.label ≠ [] then some [.quoted arc.label] else none) ∧
      List.Forall₂ Assigns (arcAttributes labels arc) written := by
  have stroke := assigns_stroke arc.changesState Palette.stateChange "2"
  have dashed : ∃ written : List (Text × List Token), written.lookup "label".toList = none ∧
      List.Forall₂ Assigns
        (if arc.stitch.getD [] ≠ [] then [assign "style" (quote "dashed")] else []) written := by
    split
    · have other : ("label".toList == "style".toList) = false := by decide
      refine ⟨[("style".toList, [.quoted "dashed"])], ?_, .cons (assigns_quote (by decide) _) .nil⟩
      rw [List.lookup_cons, other, List.lookup_nil]
    · exact ⟨[], rfl, .nil⟩
  obtain ⟨style, unlabelled, assigned⟩ := dashed
  have others : (style ++ strokeEntries arc.changesState Palette.stateChange "2").lookup
      "label".toList = none := by
    rw [List.lookup_append, unlabelled, lookup_strokeEntries, Option.or_none]
  unfold arcAttributes
  by_cases shown : labels = true ∧ arc.label ≠ []
  · have labelled : (labels && decide (arc.label ≠ [])) = true := by simp [shown]
    refine ⟨[("label".toList, [.quoted arc.label])] ++
      (style ++ strokeEntries arc.changesState Palette.stateChange "2"), ?_, ?_⟩
    · rw [if_pos shown, List.lookup_append, List.lookup_cons, beq_self_eq_true]
      rfl
    · rw [if_pos labelled, List.append_assoc]
      exact List.rel_append (.cons (assigns_quote (by decide) _) .nil)
        (List.rel_append assigned stroke)
  · have unshown : ¬(labels && decide (arc.label ≠ [])) = true := by simpa using shown
    refine ⟨style ++ strokeEntries arc.changesState Palette.stateChange "2", ?_, ?_⟩
    · rw [if_neg shown, others]
    · rw [if_neg unshown, List.nil_append]
      exact List.rel_append assigned stroke

/-! Lines. -/

theorem spells_brackets {pieces : List Text} {written : List (Text × List Token)}
    (all : List.Forall₂ Assigns pieces written) (nonempty : written ≠ []) :
    ∃ rest, Spells ([' ', '['] ++ Text.joinWith [' '] pieces ++ [']', ';']) rest ∧
      ∀ name, attribute? name rest = written.lookup name := by
  have opened : Spells [' ', '['] [.sign ' ', .sign '['] := spells_signs (by decide) (by decide)
  have closed : Spells [']', ';'] [.sign ']', .sign ';'] := spells_signs (by decide) (by decide)
  refine ⟨_, (opened.append (spells_joinWith all)).append closed, ?_⟩
  intro name
  have unopened : .sign '[' ∉ [Token.sign ' '] := by decide
  have inside := attributes_eq unopened [.sign ';'] all nonempty
  rw [attribute?, ← lookup_map_sign, ← inside]
  simp

def ShowsBox (box : Box) (line : Text) : Prop :=
  ∃ rest, tokens none line = some (.sign ' ' :: .sign ' ' :: .quoted box.id :: rest) ∧
    attribute? "label" rest = some [.quoted box.label]

/-- The line of an arc starts with the boxes that it joins. Its label is among the attributes that
follow, if it has one and labels are wanted. -/
def ShowsArc (labels : Bool) (arc : Arc) (line : Text) : Prop :=
  ∃ rest, tokens none line =
      some (.sign ' ' :: .sign ' ' :: .quoted arc.source :: .sign ' ' :: .sign '-' :: .sign '>' ::
        .sign ' ' :: .quoted arc.target :: rest) ∧
    attribute? "label" rest =
      if labels = true ∧ arc.label ≠ [] then some [.quoted arc.label] else none

theorem boxLine_eq (colours : Table Text) (box : Box) :
    boxLine colours box = [' ', ' '] ++ quote box.id ++
      ([' ', '['] ++ Text.joinWith [' '] (boxAttributes colours box) ++ [']', ';']) := by
  have indent : ("  " : Text) = [' ', ' '] := by decide
  have opened : (" [" : Text) = [' ', '['] := by decide
  have space : (" " : Text) = [' '] := by decide
  have closed : ("];" : Text) = [']', ';'] := by decide
  simp only [boxLine, indent, opened, space, closed, List.append_assoc]

theorem showsBox_boxLine (colours : Table Text) (box : Box) :
    ShowsBox box (boxLine colours box) ∧ '\n' ∉ boxLine colours box := by
  obtain ⟨others, unlabelled, all⟩ := assigns_boxAttributes colours box
  obtain ⟨rest, spells, values⟩ := spells_brackets all (by simp)
  have indent : Spells [' ', ' '] [.sign ' ', .sign ' '] := spells_signs (by decide) (by decide)
  have line := (indent.append (spells_quote box.id)).append spells
  rw [boxLine_eq]
  refine ⟨⟨rest, line.read, ?_⟩, line.unbroken⟩
  rw [values, List.lookup_append, unlabelled, Table.lookup_cons_eq, if_pos rfl]
  rfl

theorem arcLine_eq (labels : Bool) (arc : Arc) :
    arcLine labels arc = [' ', ' '] ++ quote arc.source ++ [' ', '-', '>', ' '] ++ quote arc.target ++
      if arcAttributes labels arc = [] then [';']
      else [' ', '['] ++ Text.joinWith [' '] (arcAttributes labels arc) ++ [']', ';'] := by
  have indent : ("  " : Text) = [' ', ' '] := by decide
  have arrow : (" -> " : Text) = [' ', '-', '>', ' '] := by decide
  have opened : (" [" : Text) = [' ', '['] := by decide
  have space : (" " : Text) = [' '] := by decide
  have closed : ("]" : Text) = [']'] := by decide
  have ended : (";" : Text) = [';'] := by decide
  unfold arcLine
  cases arcAttributes labels arc with
  | nil => simp [indent, arrow, ended]
  | cons first rest => simp [indent, arrow, opened, space, closed, ended]

theorem showsArc_arcLine (labels : Bool) (arc : Arc) :
    ShowsArc labels arc (arcLine labels arc) ∧ '\n' ∉ arcLine labels arc := by
  obtain ⟨written, label, all⟩ := assigns_arcAttributes labels arc
  have indent : Spells [' ', ' '] [.sign ' ', .sign ' '] := spells_signs (by decide) (by decide)
  have arrow : Spells [' ', '-', '>', ' '] [.sign ' ', .sign '-', .sign '>', .sign ' '] :=
    spells_signs (by decide) (by decide)
  have joined := ((indent.append (spells_quote arc.source)).append arrow).append
    (spells_quote arc.target)
  rw [arcLine_eq]
  by_cases bare : arcAttributes labels arc = []
  · rw [bare] at all
    cases all
    have line := joined.append (spells_sign (c := ';') (by decide) (by decide))
    rw [if_pos bare]
    refine ⟨⟨[.sign ';'], line.read, ?_⟩, line.unbroken⟩
    rw [← label]
    decide
  · have filled : written ≠ [] := by
      rintro rfl
      exact bare (List.forall₂_nil_right_iff.mp all)
    obtain ⟨rest, spells, values⟩ := spells_brackets all filled
    have line := joined.append spells
    rw [if_neg bare]
    refine ⟨⟨rest, line.read, ?_⟩, line.unbroken⟩
    rw [values, label]

end Knotwork.Diagram.Dot

namespace Knotwork

/-- Whatever texts a diagram holds, in DOT there are five lines before the boxes, one for every box, an
empty one, one for every arc and one at the end. Every box and every arc is read back from its line. -/
theorem dot_lines_read_back (diagram : Diagram) (labels : Bool) :
    ∃ boxLines arcLines,
      (diagram.toDot labels).rows =
        Diagram.Dot.opening ++ boxLines ++ [] :: arcLines ++ [['}']] ∧
      (diagram.toDot labels).rows.length =
        5 + diagram.boxes.length + 1 + diagram.arcs.length + 1 ∧
      List.Forall₂ Diagram.Dot.ShowsBox diagram.boxes boxLines ∧
      List.Forall₂ (Diagram.Dot.ShowsArc labels) diagram.arcs arcLines := by
  let colours := Palette.ofScenes diagram.scenes
  have boxes := fun box => Diagram.Dot.showsBox_boxLine colours box
  have arcs := fun arc => Diagram.Dot.showsArc_arcLine labels arc
  have unbroken : ∀ line ∈ Diagram.Dot.opening ++ diagram.boxes.map (Diagram.Dot.boxLine colours) ++
      [] :: diagram.arcs.map (Diagram.Dot.arcLine labels) ++ [['}']], '\n' ∉ line := by
    have opening : ∀ line ∈ Diagram.Dot.opening, '\n' ∉ line := by decide +kernel
    intro line member
    simp only [List.mem_append, List.mem_cons, List.mem_map, List.mem_nil_iff, or_false] at member
    rcases member with ((opened | ⟨box, _, rfl⟩) | rfl | ⟨arc, _, rfl⟩) | rfl
    · exact opening line opened
    · exact (boxes box).2
    · simp
    · exact (arcs arc).2
    · decide
  have rows := Text.splitOn_joinWith '\n' _ (by simp) unbroken
  have five : Diagram.Dot.opening.length = 5 := rfl
  refine ⟨_, _, rows, ?_, ?_, ?_⟩
  · refine (congrArg List.length rows).trans ?_
    simp only [List.length_append, List.length_cons, List.length_map, List.length_nil, five]
    omega
  · exact List.forall₂_map_right_iff.mpr (List.forall₂_same.mpr fun box _ => (boxes box).1)
  · exact List.forall₂_map_right_iff.mpr (List.forall₂_same.mpr fun arc _ => (arcs arc).1)

end Knotwork
