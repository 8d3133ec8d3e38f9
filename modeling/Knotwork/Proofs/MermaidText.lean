import Knotwork.Diagram.Mermaid
import Knotwork.Proofs.Collapse

/-! Diagrams in Mermaid, where boxes and arcs go by their numbers. Main statement: no name is missing in
the diagram of a graph whose edges all lead to nodes, and every line speaks of the boxes and arcs that it
is meant for, whatever the labels are. -/

namespace Knotwork.Diagram

namespace Mermaid

/-! Texts that do not disturb a line. -/

def Plain (t : Text) : Prop := ∀ c ∈ t, c ≠ '"' ∧ c ≠ '\n'

instance (t : Text) : Decidable (Plain t) :=
  decidable_of_iff (t.all fun c => c ≠ '"' && c ≠ '\n') (by simp [Plain])

theorem Plain.quote {t : Text} (plain : Plain t) : '"' ∉ t := fun member => (plain _ member).1 rfl

theorem Plain.newline {t : Text} (plain : Plain t) : '\n' ∉ t := fun member => (plain _ member).2 rfl

theorem plain_escape (t : Text) : Plain (escape t) := by
  intro c member
  constructor
  · rintro rfl
    rcases Text.mem_replace _ _ member with new | old
    · exact absurd new (by decide)
    · exact Text.not_mem_replace_char (by decide) t old
  · rintro rfl
    exact Text.not_mem_replace_char (by decide) _ member

theorem plain_ofNat (number : Nat) : Plain (Text.ofNat number) := by
  intro c member
  have digit := Text.isDigit_of_mem_ofNat member
  constructor
  · rintro rfl
    exact absurd digit (by decide)
  · rintro rfl
    exact absurd digit (by decide)

theorem plain_boxName (number : Nat) : Plain (boxName number) := by
  have front : Plain ['n'] := by decide
  exact List.forall_mem_append.mpr ⟨front, plain_ofNat number⟩

theorem plain_joinWith {pieces : List Text} (plain : ∀ piece ∈ pieces, Plain piece) :
    Plain (Text.joinWith [','] pieces) := by
  induction pieces with
  | nil => simp [Plain, Text.joinWith]
  | cons first rest ih =>
      have here : Plain first := plain first (by simp)
      cases rest with
      | nil => exact here
      | cons next later =>
          have comma : Plain [','] := by decide
          rw [Text.joinWith_cons _ _ (by simp)]
          simp only [Plain, List.forall_mem_append]
          exact ⟨⟨here, comma⟩, ih fun piece member => plain piece (by simp [member])⟩

theorem boxName_injective : Function.Injective boxName := by
  intro first second same
  exact Text.ofNat_injective (List.cons.inj same).2

theorem count_quote {front back : Text} (left : Plain front) (right : Plain back) (t : Text) :
    (front ++ quote t ++ back).count '"' = 2 ∧ '\n' ∉ front ++ quote t ++ back := by
  have inside := plain_escape t
  constructor
  · simp [quote, List.count_eq_zero.mpr left.quote, List.count_eq_zero.mpr right.quote,
      List.count_eq_zero.mpr inside.quote]
  · simp [quote, left.newline, right.newline, inside.newline]

/-! Names. -/

def Named (boxes : List Box) (id name : Text) : Prop :=
  ∃ number box, boxes[number]? = some box ∧ box.id = id ∧ name = boxName number

theorem Named.plain {boxes : List Box} {id name : Text} (named : Named boxes id name) :
    Plain name := by
  obtain ⟨number, _, _, _, rfl⟩ := named
  exact plain_boxName number

theorem find?_names {boxes : List Box} (distinct : (boxes.map Box.id).Nodup) {number : Nat}
    {box : Box} (here : boxes[number]? = some box) :
    (names boxes).find? box.id = some (boxName number) := by
  have keys : (boxes.zipIdx.map fun entry => (entry.1.id, boxName entry.2)).map Prod.fst =
      boxes.map Box.id := by
    rw [List.map_map, ← List.zipIdx_map_fst 0 boxes, List.map_map, List.zipIdx_map_fst]
    rfl
  rw [← Table.mem_entries_iff, names, Table.entries_ofPairs_of_nodup]
  · exact List.mem_map.mpr ⟨(box, number), List.mk_mem_zipIdx_iff_getElem?.mpr here, rfl⟩
  · exact keys ▸ distinct

theorem exists_name {boxes : List Box} (distinct : (boxes.map Box.id).Nodup) {id : Text}
    (member : id ∈ boxes.map Box.id) :
    ∃ name, (names boxes).get id = .ok name ∧ Named boxes id name := by
  obtain ⟨box, present, rfl⟩ := List.mem_map.mp member
  obtain ⟨number, here⟩ := List.getElem?_of_mem present
  refine ⟨boxName number, ?_, number, box, here, rfl, rfl⟩
  rw [Table.get, find?_names distinct here]

/-! Lines. -/

structure ShowsBox (entry : Box × Nat) (line : Text) : Prop where
  written : ∃ front back, (front = ['['] ∨ front = ['(', '[']) ∧
    line = [' ', ' '] ++ boxName entry.2 ++ front ++ quote entry.1.label ++ back
  quotes : line.count '"' = 2
  unbroken : '\n' ∉ line

/-- The line of an arc: the name of the box that it comes from, an arrow, its label if it has one and
labels are wanted, and the name of the box that it leads to. -/
structure ShowsArc (labels : Bool) (boxes : List Box) (arc : Arc) (line : Text) : Prop where
  written : ∃ source target arrow, Named boxes arc.source source ∧ Named boxes arc.target target ∧
    (arrow = ['-', '-', '>'] ∨ arrow = ['-', '.', '-', '>']) ∧
    line = [' ', ' '] ++ source ++ [' '] ++ arrow ++
      (if labels = true ∧ arc.label ≠ [] then ['|'] ++ quote arc.label ++ ['|'] else []) ++
      [' '] ++ target
  quotes : line.count '"' = if labels = true ∧ arc.label ≠ [] then 2 else 0
  unbroken : '\n' ∉ line

structure ShowsChanges (arcs : List Arc) (lines : List Text) : Prop where
  single : lines.length ≤ 1
  present : lines ≠ [] ↔ ∃ arc ∈ arcs, arc.changesState = true
  listed : ∀ line ∈ lines, ∃ places : List Nat, places.Pairwise (· < ·) ∧
    (∀ place, place ∈ places ↔ ∃ arc, arcs[place]? = some arc ∧ arc.changesState = true) ∧
    line = "  linkStyle ".toList ++ Text.joinWith [','] (places.map Text.ofNat) ++
      " stroke:".toList ++ Palette.stateChange ++ ",stroke-width:2px".toList
  unbroken : ∀ line ∈ lines, '\n' ∉ line

theorem exists_boxLine {boxes : List Box} (distinct : (boxes.map Box.id).Nodup) {entry : Box × Nat}
    (member : entry ∈ boxes.zipIdx) :
    ∃ line, boxLine (names boxes) entry.1 = .ok line ∧ ShowsBox entry line := by
  obtain ⟨box, number⟩ := entry
  have name : (names boxes).get box.id = .ok (boxName number) := by
    rw [Table.get, find?_names distinct (List.mk_mem_zipIdx_iff_getElem?.mp member)]
  obtain ⟨front, back, shape, plain, written⟩ : ∃ front back : Text,
      (front = ['['] ∨ front = ['(', '[']) ∧ Plain back ∧
      boxLine (names boxes) box =
        .ok ([' ', ' '] ++ boxName number ++ front ++ quote box.label ++ back) := by
    unfold boxLine
    rw [name]
    by_cases start : box.isStart
    · exact ⟨['['], "]:::start", Or.inl rfl, by decide, by simp [start]⟩
    · by_cases ending : box.isEnding
      · exact ⟨['(', '['], "]):::ending", Or.inr rfl, by decide, by simp [start, ending]⟩
      · by_cases deadEnd : box.isDeadEnd
        · exact ⟨['['], "]:::deadEnd", Or.inl rfl, by decide, by simp [start, ending, deadEnd]⟩
        · exact ⟨['['], "]", Or.inl rfl, by decide, by simp [start, ending, deadEnd]⟩
  have opened : Plain front := by
    rcases shape with rfl | rfl
    · decide
    · decide
  have indent : Plain [' ', ' '] := by decide
  have lead : Plain ([' ', ' '] ++ boxName number ++ front) := by
    simp only [Plain, List.forall_mem_append]
    exact ⟨⟨indent, plain_boxName number⟩, opened⟩
  obtain ⟨quotes, unbroken⟩ := count_quote lead plain box.label
  exact ⟨_, written, ⟨front, back, shape, rfl⟩, quotes, unbroken⟩

theorem exists_arcLine {boxes : List Box} (distinct : (boxes.map Box.id).Nodup) (labels : Bool)
    {arc : Arc} (source : arc.source ∈ boxes.map Box.id) (target : arc.target ∈ boxes.map Box.id) :
    ∃ line, arcLine labels (names boxes) arc = .ok line ∧ ShowsArc labels boxes arc line := by
  obtain ⟨sourceName, sourceFound, sourceNamed⟩ := exists_name distinct source
  obtain ⟨targetName, targetFound, targetNamed⟩ := exists_name distinct target
  obtain ⟨arrow, shape, written⟩ : ∃ arrow : Text,
      (arrow = ['-', '-', '>'] ∨ arrow = ['-', '.', '-', '>']) ∧
      arcLine labels (names boxes) arc = .ok ([' ', ' '] ++ sourceName ++ [' '] ++ arrow ++
        (if labels = true ∧ arc.label ≠ [] then ['|'] ++ quote arc.label ++ ['|'] else []) ++
        [' '] ++ targetName) := by
    unfold arcLine
    rw [sourceFound, targetFound]
    by_cases stitched : arc.stitch.getD [] = []
    · refine ⟨['-', '-', '>'], Or.inl rfl, ?_⟩
      simp [stitched, bind, Except.bind, pure, Except.pure]
    · refine ⟨['-', '.', '-', '>'], Or.inr rfl, ?_⟩
      simp [stitched, bind, Except.bind, pure, Except.pure]
  have opened : Plain ([' ', ' '] ++ sourceName ++ [' '] ++ arrow) := by
    have indent : Plain [' ', ' '] := by decide
    have space : Plain [' '] := by decide
    have drawn : Plain arrow := by
      rcases shape with rfl | rfl
      · decide
      · decide
    simp only [Plain, List.forall_mem_append]
    exact ⟨⟨⟨indent, sourceNamed.plain⟩, space⟩, drawn⟩
  have closed : Plain ([' '] ++ targetName) := by
    have space : Plain [' '] := by decide
    exact List.forall_mem_append.mpr ⟨space, targetNamed.plain⟩
  have bar : Plain ['|'] := by decide
  have bare : Plain ([' ', ' '] ++ sourceName ++ [' '] ++ arrow ++ ([' '] ++ targetName)) :=
    List.forall_mem_append.mpr ⟨opened, closed⟩
  obtain ⟨quotes, unbroken⟩ := count_quote (List.forall_mem_append.mpr ⟨opened, bar⟩)
    (List.forall_mem_append.mpr ⟨bar, closed⟩) arc.label
  refine ⟨_, written, ⟨_, _, arrow, sourceNamed, targetNamed, shape, rfl⟩, ?_, ?_⟩
  · by_cases labelled : labels = true ∧ arc.label ≠ []
    · rw [if_pos labelled, if_pos labelled, ← quotes]
      simp only [List.append_assoc]
    · rw [if_neg labelled, if_neg labelled, List.append_nil, List.count_eq_zero, List.append_assoc]
      exact bare.quote
  · by_cases labelled : labels = true ∧ arc.label ≠ []
    · rw [if_pos labelled]
      simpa only [List.append_assoc] using unbroken
    · rw [if_neg labelled, List.append_nil, List.append_assoc]
      exact bare.newline

theorem mem_changes {arcs : List Arc} {place : Nat} :
    place ∈ changes arcs ↔ ∃ arc, arcs[place]? = some arc ∧ arc.changesState = true := by
  simp only [changes, List.mem_map, List.mem_filter, Prod.exists, exists_eq_right,
    List.mk_mem_zipIdx_iff_getElem?]

theorem pairwise_changes (arcs : List Arc) : (changes arcs).Pairwise (· < ·) := by
  have within : (changes arcs).Sublist (arcs.zipIdx.map Prod.snd) := List.filter_sublist.map _
  rw [List.zipIdx_map_snd] at within
  exact (List.pairwise_lt_range' 1).sublist within

theorem changeLines_eq (arcs : List Arc) :
    changeLines arcs = if changes arcs = [] then [] else
      ["  linkStyle ".toList ++ Text.joinWith [','] ((changes arcs).map Text.ofNat) ++
        " stroke:".toList ++ Palette.stateChange ++ ",stroke-width:2px".toList] := by
  unfold changeLines
  cases changes arcs with
  | nil => rfl
  | cons first rest => rfl

theorem changes_ne_nil_iff (arcs : List Arc) :
    changes arcs ≠ [] ↔ ∃ arc ∈ arcs, arc.changesState = true := by
  constructor
  · intro filled
    obtain ⟨place, member⟩ := List.exists_mem_of_ne_nil _ filled
    obtain ⟨arc, here, changing⟩ := mem_changes.mp member
    exact ⟨arc, List.mem_of_getElem? here, changing⟩
  · rintro ⟨arc, member, changing⟩
    obtain ⟨place, here⟩ := List.getElem?_of_mem member
    exact List.ne_nil_of_mem (mem_changes.mpr ⟨arc, here, changing⟩)

theorem showsChanges_changeLines (arcs : List Arc) : ShowsChanges arcs (changeLines arcs) := by
  rw [changeLines_eq]
  by_cases none : changes arcs = []
  · rw [if_pos none]
    exact ⟨by simp, by simp [← changes_ne_nil_iff, none], by simp, by simp⟩
  · rw [if_neg none]
    refine ⟨by simp, by simp [← changes_ne_nil_iff, none], ?_, ?_⟩
    · intro line member
      exact ⟨changes arcs, pairwise_changes arcs, fun _ => mem_changes, List.mem_singleton.mp member⟩
    · have opened : Plain "  linkStyle ".toList := by decide
      have stroke : Plain " stroke:".toList := by decide
      have colour : Plain Palette.stateChange := by decide
      have closed : Plain ",stroke-width:2px".toList := by decide
      have places : Plain (Text.joinWith [','] ((changes arcs).map Text.ofNat)) := by
        apply plain_joinWith
        intro piece member
        obtain ⟨place, _, rfl⟩ := List.mem_map.mp member
        exact plain_ofNat place
      intro line member
      rw [List.mem_singleton.mp member]
      apply Plain.newline
      simp only [Plain, List.forall_mem_append]
      exact ⟨⟨⟨⟨opened, places⟩, stroke⟩, colour⟩, closed⟩

/-! The whole text. -/

structure Lines where
  boxes : List Text
  arcs : List Text
  classes : List Text
  changes : List Text

def Lines.all (lines : Lines) : List Text :=
  "graph LR".toList :: lines.boxes ++ [] :: lines.arcs ++ [] :: lines.classes ++ lines.changes

structure Lines.Show (lines : Lines) (labels : Bool) (diagram : Diagram) : Prop where
  boxes : List.Forall₂ ShowsBox diagram.boxes.zipIdx lines.boxes
  arcs : List.Forall₂ (ShowsArc labels diagram.boxes) diagram.arcs lines.arcs
  three : lines.classes.length = 3
  classes : ∀ line ∈ lines.classes, "  classDef ".toList <+: line ∧ '\n' ∉ line
  changes : ShowsChanges diagram.arcs lines.changes

theorem Lines.Show.unbroken {lines : Lines} {labels : Bool} {diagram : Diagram}
    (shown : lines.Show labels diagram) : ∀ line ∈ lines.all, '\n' ∉ line := by
  intro line member
  simp only [Lines.all, List.cons_append, List.mem_cons, List.mem_append] at member
  rcases member with rfl | (((box | rfl | arc) | rfl | group) | change)
  · decide
  · obtain ⟨_, _, shows⟩ := exists_of_forall₂ shown.boxes box
    exact shows.unbroken
  · simp
  · obtain ⟨_, _, shows⟩ := exists_of_forall₂ shown.arcs arc
    exact shows.unbroken
  · simp
  · exact (shown.classes line group).2
  · exact shown.changes.unbroken line change

end Mermaid

def Joined (diagram : Diagram) : Prop :=
  ∀ arc ∈ diagram.arcs,
    arc.source ∈ diagram.boxes.map Box.id ∧ arc.target ∈ diagram.boxes.map Box.id

theorem exists_toMermaid {diagram : Diagram} (distinct : (diagram.boxes.map Box.id).Nodup)
    (joined : diagram.Joined) (labels : Bool) :
    ∃ text lines, diagram.toMermaid labels = .ok text ∧ text.rows = Mermaid.Lines.all lines ∧
      lines.Show labels diagram := by
  obtain ⟨boxLines, boxesWritten, boxes⟩ := exists_mapM_eq_ok
    fun entry (member : entry ∈ diagram.boxes.zipIdx) => Mermaid.exists_boxLine distinct member
  obtain ⟨arcLines, arcsWritten, arcs⟩ := exists_mapM_eq_ok fun arc member =>
    Mermaid.exists_arcLine distinct labels (joined arc member).1 (joined arc member).2
  have inOrder : diagram.boxes.mapM (Mermaid.boxLine (Mermaid.names diagram.boxes)) =
      .ok boxLines := by
    calc diagram.boxes.mapM (Mermaid.boxLine (Mermaid.names diagram.boxes))
      _ = (diagram.boxes.zipIdx.map Prod.fst).mapM (Mermaid.boxLine (Mermaid.names diagram.boxes)) := by
          rw [List.zipIdx_map_fst]
      _ = .ok boxLines := List.mapM_map.trans boxesWritten
  have classes : ∀ line ∈ Mermaid.classLines, "  classDef ".toList <+: line ∧ '\n' ∉ line := by
    decide +kernel
  let lines : Mermaid.Lines :=
    ⟨boxLines, arcLines, Mermaid.classLines, Mermaid.changeLines diagram.arcs⟩
  have shown : lines.Show labels diagram :=
    ⟨boxes, arcs, rfl, classes, Mermaid.showsChanges_changeLines diagram.arcs⟩
  refine ⟨Text.joinWith ['\n'] lines.all, lines, ?_, ?_, shown⟩
  · rw [toMermaid, inOrder, arcsWritten]
    rfl
  · exact Text.splitOn_joinWith '\n' _ (by simp [Mermaid.Lines.all]) shown.unbroken

end Knotwork.Diagram

namespace Knotwork

namespace Graph

variable {graph : Graph} {collapse : Bool} {diagram : Diagram} {strokes : List Arc}

theorem Drawn.map_id (drawn : graph.Drawn collapse diagram strokes) :
    diagram.boxes.map Box.id = firstOfEach (graph.nodes.values.map (Node.boxId collapse)) := by
  rw [drawn.boxes, Diagram.map_id_values, List.map_map]
  rfl

theorem Drawn.joined (drawn : graph.Drawn collapse diagram strokes) : diagram.Joined := by
  have known : ∀ node ∈ graph.nodes.values, node.boxId collapse ∈ diagram.boxes.map Box.id := by
    intro node member
    rw [drawn.map_id, mem_firstOfEach]
    exact List.mem_map_of_mem member
  intro arc member
  have stroke : arc ∈ strokes := by
    rw [drawn.arcs] at member
    split at member
    · exact List.mem_of_find?_eq_some (Diagram.find?_of_mem_mergeArcs member)
    · exact member
  obtain ⟨⟨node, edge⟩, leads, target, found, source, targetBox, _⟩ :=
    exists_of_forall₂ drawn.each stroke
  rw [source, targetBox]
  exact ⟨known node (mem_values.mpr (mem_edges.mp leads).1),
    known target (mem_values.mpr ⟨_, found⟩)⟩

end Graph

/-- In Mermaid, a diagram of a graph whose edges all lead to nodes has a line for every box and for every
arc, in order. Boxes have different names, arcs go by the names of the boxes that they join, and those
that change the state are listed by their places. -/
theorem mermaid_names_boxes_and_arcs {graph : Graph}
    (closed : ∀ edge ∈ graph.edges, ∃ target, graph.nodes.find? edge.2.target = some target)
    (collapse labels : Bool) :
    ∃ diagram text lines, graph.diagram collapse = .ok diagram ∧
      diagram.toMermaid labels = .ok text ∧ text.rows = Diagram.Mermaid.Lines.all lines ∧
      lines.Show labels diagram ∧ lines.boxes.length = diagram.boxes.length ∧
      lines.arcs.length = diagram.arcs.length ∧ (diagram.boxes.map Box.id).Nodup ∧
      Function.Injective Diagram.Mermaid.boxName := by
  obtain ⟨diagram, strokes, made, drawn⟩ := Graph.exists_diagram closed collapse
  have distinct : (diagram.boxes.map Box.id).Nodup := drawn.map_id ▸ nodup_firstOfEach _
  obtain ⟨text, lines, written, rows, shown⟩ := diagram.exists_toMermaid distinct drawn.joined labels
  refine ⟨diagram, text, lines, made, written, rows, shown, ?_, ?_, distinct,
    Diagram.Mermaid.boxName_injective⟩
  · rw [← shown.boxes.length_eq, List.length_zipIdx]
  · exact shown.arcs.length_eq.symm

def innStory : Text :=
  Text.joinWith ['\n']
    ["// STATES: bed", "=== index ===", "* Say \"please\" ~ bed = true", "* {bed == true} Sleep -> dawn",
     "=== dawn ===", "END"]

def innRows : List Text × Option Text :=
  (["  n0[\"index<br/>-\"]:::start", "  n1[\"index<br/>bed\"]", "  n2([\"dawn<br/>bed\"]):::ending", "",
    "  n0 -->|\"Say &quot;please&quot;\"| n1", "  n1 -->|\"Say &quot;please&quot;\"| n1",
    "  n1 -->|\"Sleep\"| n2"],
   some "  linkStyle 0 stroke:#6A5ACD,stroke-width:2px".toList)

theorem mermaid_names_boxes_and_arcs_inn :
    ∃ script graph diagram text lines, Script.read innStory = .ok script ∧
      script.graph "index" = .ok graph ∧ graph.diagram false = .ok diagram ∧
      diagram.toMermaid true = .ok text ∧ text.rows = Diagram.Mermaid.Lines.all lines ∧
      lines.Show true diagram ∧ ((text.rows.drop 1).take 7, text.rows.getLast?) = innRows := by
  have computed : ((Script.read innStory).toOption.bind fun script =>
      (script.graph "index").toOption.bind fun graph =>
        (graph.diagram false).toOption.bind fun diagram =>
          (diagram.toMermaid true).toOption.map fun text =>
            ((text.rows.drop 1).take 7, text.rows.getLast?)) = some innRows := by
    decide +kernel
  obtain ⟨script, parsed, computed⟩ := Option.bind_eq_some_iff.mp computed
  obtain ⟨graph, built, computed⟩ := Option.bind_eq_some_iff.mp computed
  obtain ⟨diagram, made, computed⟩ := Option.bind_eq_some_iff.mp computed
  obtain ⟨text, written, shown⟩ := Option.map_eq_some_iff.mp computed
  have built := Except.eq_ok_of_toOption built
  have made := Except.eq_ok_of_toOption made
  have written := Except.eq_ok_of_toOption written
  have closed := (Script.charts_graph built).closed_edges
  obtain ⟨_, _, lines, sameDiagram, sameText, rows, shows, _⟩ :=
    mermaid_names_boxes_and_arcs closed false true
  cases made.symm.trans sameDiagram
  cases written.symm.trans sameText
  exact ⟨script, graph, diagram, text, lines, Except.eq_ok_of_toOption parsed, built, made, written, rows,
    shows, shown⟩

end Knotwork
