import Knotwork.Artifact.Passages
import Knotwork.Proofs.Unbroken
import Knotwork.Proofs.Validation

/-! How the source of a story is read again as passages. A row that starts with two colons starts a
passage, whoever wrote it. Main statement: there is a passage for the title, one for the data and one
for every node, and one more for every row of the title or of a node's text that starts with two
colons. -/

namespace Knotwork

def Text.rows (t : Text) : List Text := Text.splitOn ['\n'] t

theorem Text.rows_of_not_mem {t : Text} (single : '\n' ∉ t) : t.rows = [t] :=
  Text.splitOn_of_not_mem '\n' t single

theorem Text.flatMap_rows_of_not_mem {texts : List Text} (single : ∀ t ∈ texts, '\n' ∉ t) :
    texts.flatMap Text.rows = texts := by
  induction texts with
  | nil => rfl
  | cons first rest ih =>
      rw [List.flatMap_cons, Text.rows_of_not_mem (single first (by simp)),
        ih fun t member => single t (by simp [member])]
      rfl

namespace Passage

def isHeader (row : Text) : Bool := [':', ':'].isPrefixOf row

theorem isHeader_cons (c : Char) (rest : Text) :
    isHeader (c :: rest) = true ↔ c = ':' ∧ rest.head? = some ':' := by
  cases rest with
  | nil => simp [isHeader, List.isPrefixOf]
  | cons next others =>
      simp only [isHeader, List.isPrefixOf, Bool.and_true, Bool.and_eq_true, beq_iff_eq,
        List.head?_cons, Option.some.injEq]
      exact and_congr eq_comm eq_comm

def cut : List Text → List Text × List (List Text)
  | [] => ([], [])
  | row :: rest =>
      let later := cut rest
      if isHeader row then ([], (row :: later.1) :: later.2) else (row :: later.1, later.2)

theorem length_cut (rows : List Text) : (cut rows).2.length = (rows.filter isHeader).length := by
  induction rows with
  | nil => rfl
  | cons row rest ih =>
      simp only [cut]
      cases starts : isHeader row with
      | true => simp [starts, ih]
      | false => simp [starts, ih]

theorem cut_of_isHeader {row : Text} (starts : isHeader row = true) (rest : List Text) :
    (cut (row :: rest)).1 = [] := by
  simp [cut, starts]

theorem cut_append {body : List Text} (plain : ∀ row ∈ body, isHeader row = false)
    (rest : List Text) : cut (body ++ rest) = (body ++ (cut rest).1, (cut rest).2) := by
  induction body with
  | nil => rfl
  | cons row others ih =>
      have later := ih fun other member => plain other (by simp [member])
      simp [cut, plain row (by simp), later]

def Whole (passage : List Text) : Prop :=
  ∃ header body, passage = header :: body ∧ isHeader header = true ∧
    ∀ row ∈ body, isHeader row = false

theorem Whole.length_headers {passage : List Text} (whole : Whole passage) :
    (passage.filter isHeader).length = 1 := by
  obtain ⟨header, body, rfl, starts, plain⟩ := whole
  have none : body.filter isHeader = [] :=
    List.filter_eq_nil_iff.mpr fun row member => by simp [plain row member]
  rw [List.filter_cons_of_pos starts, none, List.length_singleton]

theorem cut_flatten {passages : List (List Text)} (whole : ∀ passage ∈ passages, Whole passage) :
    cut passages.flatten = ([], passages) := by
  induction passages with
  | nil => rfl
  | cons passage rest ih =>
      obtain ⟨header, body, rfl, starts, plain⟩ := whole passage (by simp)
      have later := ih fun other member => whole other (by simp [member])
      rw [List.flatten_cons, List.cons_append, cut, cut_append plain, later]
      simp [starts]

theorem isHeader_replace {mark replacement : Text} (nonempty : mark ≠ []) (filled : replacement ≠ [])
    (unmarked : mark.head? ≠ some ':') (replaced : replacement.head? ≠ some ':') (t : Text) :
    isHeader (Text.replace mark replacement t) = isHeader t := by
  have heads := Text.head?_replace unmarked nonempty filled replaced
  rw [Bool.eq_iff_iff]
  cases t with
  | nil => rfl
  | cons c rest =>
      by_cases marked : mark.isPrefixOf (c :: rest) = true
      · -- Neither text starts with a colon.
        have other : c ≠ ':' := by
          rintro rfl
          obtain ⟨m, others, rfl⟩ := List.exists_cons_of_ne_nil nonempty
          simp only [List.isPrefixOf, Bool.and_eq_true, beq_iff_eq] at marked
          exact unmarked (by rw [marked.1]; rfl)
        have first := heads (c :: rest)
        cases result : Text.replace mark replacement (c :: rest) with
        | nil =>
            rw [isHeader_cons]
            simp [other, isHeader]
        | cons d others =>
            rw [result] at first
            simp only [List.head?_cons, Option.some.injEq] at first
            rw [isHeader_cons, isHeader_cons, first]
            simp [other]
      · rw [Text.replace_cons, if_neg marked, isHeader_cons, isHeader_cons, heads rest]

theorem isHeader_escapeMacros (t : Text) : isHeader (escapeMacros t) = isHeader t := by
  unfold escapeMacros
  rw [isHeader_replace (by simp) (by decide) (by simp) (by decide),
    isHeader_replace (by simp) (by decide) (by simp) (by decide)]

theorem rows_escapeMacros (t : Text) : (escapeMacros t).rows = t.rows.map escapeMacros := by
  unfold escapeMacros Text.rows
  rw [Text.splitOn_replace (by decide) (by simp) (by decide),
    Text.splitOn_replace (by decide) (by simp) (by decide), List.map_map]
  rfl

def headline (name : Text) (node : Node) : Text :=
  ":: " ++ name ++ match tags name node with
    | [] => []
    | tags => " [" ++ Text.joinWith " " tags ++ "]"

theorem isHeader_headline (name : Text) (node : Node) : isHeader (headline name node) = true := rfl

theorem newline_not_mem_headline {name : Text} (single : '\n' ∉ name) (node : Node) :
    '\n' ∉ headline name node := by
  have tagged : '\n' ∉ Text.joinWith " " (tags name node) := by
    unfold tags
    by_cases starts : name = start <;> cases node.isEnd <;> simp [starts, Text.joinWith]
  unfold headline
  split
  · simp [single]
  · simpa [single] using tagged

theorem newline_not_mem_link {label target : Text} (labelSingle : '\n' ∉ label)
    (targetSingle : '\n' ∉ target) : '\n' ∉ link label target := by
  have quoted : '\n' ∉ Text.replace ['"'] "\\\"" label := by
    intro member
    rcases Text.mem_replace _ _ member with new | old
    · exact absurd new (by decide)
    · exact labelSingle old
  unfold link
  split
  · simpa [targetSingle] using quoted
  · simp [labelSingle, targetSingle]

theorem isHeader_link (label target : Text) : isHeader (link label target) = false := by
  unfold link
  split
  · rfl
  · rfl

/-- A row is the link of an edge: it leads to the passage of the target under the edge's text, or under
that passage's name if there is none. -/
def Leads (names : Table Text) (edge : Edge) (row : Text) : Prop :=
  ∃ target, names.find? edge.target = some target ∧
    row = link (if edge.text = [] then target else edge.text) target

/-- A passage shows a node: it has the name of the node, then its text, its links and an empty row. -/
def Shows (names : Table Text) (node : Node) (passage : List Text) : Prop :=
  ∃ name links, names.find? node.id = some name ∧ List.Forall₂ (Leads names) node.edges links ∧
    passage = headline name node ::
      ((if node.content = [] then [] else node.content.rows.map escapeMacros) ++ links ++ [[]])

theorem Leads.single {names : Table Text} (namesSingle : ∀ key name, names.find? key = some name →
    '\n' ∉ name) {edge : Edge} (textSingle : '\n' ∉ edge.text) {row : Text}
    (leads : Leads names edge row) : '\n' ∉ row := by
  obtain ⟨target, found, rfl⟩ := leads
  apply newline_not_mem_link
  · split
    · exact namesSingle _ _ found
    · exact textSingle
  · exact namesSingle _ _ found

theorem Leads.not_isHeader {names : Table Text} {edge : Edge} {row : Text}
    (leads : Leads names edge row) : isHeader row = false := by
  obtain ⟨target, _, rfl⟩ := leads
  exact isHeader_link _ target

def mistaken (t : Text) : List Text := t.rows.filter isHeader

theorem length_headers_content (node : Node) :
    (List.filter isHeader
      (if node.content = [] then [] else node.content.rows.map escapeMacros)).length =
        (mistaken node.content).length := by
  split
  · rename_i empty
    rw [empty]
    rfl
  · have kept : isHeader ∘ escapeMacros = isHeader := funext isHeader_escapeMacros
    rw [List.filter_map, List.length_map, kept, mistaken]

theorem filter_isHeader_links {names : Table Text} {edges : List Edge} {links : List Text}
    (leads : List.Forall₂ (Leads names) edges links) : links.filter isHeader = [] := by
  rw [List.filter_eq_nil_iff]
  intro row member
  obtain ⟨edge, _, led⟩ := exists_of_forall₂ leads member
  simp [led.not_isHeader]

theorem Shows.length_headers {names : Table Text} {node : Node} {passage : List Text}
    (shown : Shows names node passage) :
    (passage.filter isHeader).length = 1 + (mistaken node.content).length := by
  obtain ⟨name, links, _, leads, rfl⟩ := shown
  rw [List.filter_cons_of_pos (isHeader_headline name node), List.filter_append,
    List.filter_append, filter_isHeader_links leads, List.length_cons, List.append_nil, List.length_append,
    length_headers_content]
  have blank : List.filter isHeader [[]] = [] := rfl
  rw [blank, List.length_nil]
  omega

theorem Shows.whole {names : Table Text} {node : Node} {passage : List Text}
    (shown : Shows names node passage) (clear : mistaken node.content = []) : Whole passage := by
  have single := shown.length_headers
  obtain ⟨name, links, _, _, rfl⟩ := shown
  refine ⟨headline name node, _, rfl, isHeader_headline name node, ?_⟩
  rw [List.filter_cons_of_pos (isHeader_headline name node), clear, List.length_cons,
    List.length_nil, Nat.add_comm, Nat.add_left_cancel_iff, List.length_eq_zero_iff,
    List.filter_eq_nil_iff] at single
  intro row member
  simpa using single row member

theorem length_headers_flatten {names : Table Text} {nodes : List Node} {passages : List (List Text)}
    (shown : List.Forall₂ (Shows names) nodes passages) :
    (passages.flatten.filter isHeader).length =
      nodes.length + (nodes.flatMap fun node => mistaken node.content).length := by
  induction shown with
  | nil => rfl
  | cons first _ ih =>
      rw [List.flatten_cons, List.filter_append, List.length_append, ih, first.length_headers,
        List.flatMap_cons, List.length_append, List.length_cons]
      omega

/-! Names of passages. -/

theorem unbroken_baseName {knot : Text} (single : knot.Unbroken) : (baseName knot).Unbroken := by
  intro c member
  obtain ⟨original, present, rfl⟩ := List.mem_map.mp member
  split
  · decide
  · exact single original present

theorem unbroken_ofNat (n : Nat) : (Text.ofNat n).Unbroken := by
  intro c member
  have digit := Text.isDigit_of_mem_ofNat member
  simp only [Char.isDigit, Bool.and_eq_true, decide_eq_true_eq, UInt32.le_iff_toNat_le] at digit
  have bounds : 48 ≤ c.toNat ∧ c.toNat ≤ 57 := digit
  simp only [Text.isLineBreak, Bool.or_eq_false_iff, Bool.and_eq_false_iff, decide_eq_false_iff_not,
    beq_eq_false_iff_ne]
  omega

theorem unbroken_candidate {base : Text} (single : base.Unbroken) (n : Nat) :
    (candidate base n).Unbroken := by
  unfold candidate
  split
  · exact single
  · have opened : Text.Unbroken " (" := by decide
    have closed : Text.Unbroken ")" := by decide
    simp only [Text.Unbroken, List.forall_mem_append]
    exact ⟨⟨⟨single, opened⟩, unbroken_ofNat (n + 1)⟩, closed⟩

theorem find?_nameNodes_of_some {names : Table Text} {key name : Text}
    (found : names.find? key = some name) (used : List Text) (nodes : List Node) :
    (nameNodes names used nodes).find? key = some name := by
  induction nodes generalizing names used with
  | nil => exact found
  | cons node rest ih =>
      unfold nameNodes
      split
      · exact ih found used
      · rename_i unnamed
        refine ih ?_ _
        rw [Table.find?_insert, if_neg ?_]
        · exact found
        · rintro rfl
          exact unnamed (by simp [Table.contains, found])

theorem exists_name {nodes : List Node} {node : Node} (member : node ∈ nodes) (names : Table Text)
    (used : List Text) : ∃ name, (nameNodes names used nodes).find? node.id = some name := by
  induction nodes generalizing names used with
  | nil => simp at member
  | cons first rest ih =>
      unfold nameNodes
      split
      · rename_i named
        rcases List.mem_cons.mp member with rfl | later
        · obtain ⟨name, found⟩ := Option.isSome_iff_exists.mp named
          exact ⟨name, find?_nameNodes_of_some found used rest⟩
        · exact ih later names used
      · rcases List.mem_cons.mp member with rfl | later
        · exact ⟨_, find?_nameNodes_of_some (by rw [Table.find?_insert, if_pos rfl]) _ rest⟩
        · exact ih later _ _

theorem forall_nameNodes {good : Text → Prop} {nodes : List Node}
    (fresh : ∀ node ∈ nodes, ∀ n, good (candidate (baseName node.knot) n)) {names : Table Text}
    (old : ∀ key name, names.find? key = some name → good name) (used : List Text) :
    ∀ key name, (nameNodes names used nodes).find? key = some name → good name := by
  induction nodes generalizing names used with
  | nil => exact old
  | cons node rest ih =>
      obtain ⟨here, others⟩ := List.forall_mem_cons.mp fresh
      unfold nameNodes
      split
      · exact ih others old used
      · refine ih others ?_ _
        intro key name found
        rw [Table.find?_insert] at found
        split at found
        · cases found
          exact here _
        · exact old key name found

theorem exists_ofEdge {names : Table Text} {edge : Edge}
    (named : ∃ target, names.find? edge.target = some target) :
    ∃ row, ofEdge names edge = .ok row ∧ Leads names edge row := by
  obtain ⟨target, found⟩ := named
  refine ⟨link (if edge.text = [] then target else edge.text) target, ?_, target, found, rfl⟩
  rw [ofEdge, Table.get, found]
  rfl

def Written (names : Table Text) (node : Node) (lines : List Text) : Prop :=
  ∃ name links, names.find? node.id = some name ∧ List.Forall₂ (Leads names) node.edges links ∧
    lines = headline name node ::
      (if node.content = [] then [] else [escapeMacros node.content]) ++ links

theorem exists_written {names : Table Text} {node : Node}
    (named : ∃ name, names.find? node.id = some name)
    (targets : ∀ edge ∈ node.edges, ∃ target, names.find? edge.target = some target) :
    ∃ lines, ofNode names node = .ok lines ∧ Written names node lines := by
  obtain ⟨name, found⟩ := named
  obtain ⟨links, linked, leads⟩ :=
    exists_mapM_eq_ok fun edge member => exists_ofEdge (targets edge member)
  refine ⟨_, ?_, name, links, found, leads, rfl⟩
  rw [ofNode, Table.get, found]
  show (node.edges.mapM (ofEdge names) >>= _) = _
  rw [linked]
  rfl

def rowsOf (lines : List Text) : List Text := (lines ++ [[]]).flatMap Text.rows

theorem Written.headD_rowsOf {names : Table Text} {node : Node} {lines : List Text}
    (written : Written names node lines)
    (namesSingle : ∀ key name, names.find? key = some name → '\n' ∉ name) :
    (rowsOf lines).headD [] = lines.headD [] := by
  obtain ⟨name, links, found, _, rfl⟩ := written
  rw [rowsOf, List.cons_append, List.cons_append, List.flatMap_cons,
    Text.rows_of_not_mem (newline_not_mem_headline (namesSingle _ _ found) node)]
  rfl

theorem Written.shows {names : Table Text} {node : Node} {lines : List Text}
    (written : Written names node lines)
    (namesSingle : ∀ key name, names.find? key = some name → '\n' ∉ name)
    (textsSingle : ∀ edge ∈ node.edges, '\n' ∉ edge.text) : Shows names node (rowsOf lines) := by
  obtain ⟨name, links, found, leads, rfl⟩ := written
  have single : ∀ row ∈ links, '\n' ∉ row := by
    intro row member
    obtain ⟨edge, present, led⟩ := exists_of_forall₂ leads member
    exact led.single namesSingle (textsSingle edge present)
  have content : List.flatMap Text.rows
      (if node.content = [] then [] else [escapeMacros node.content]) =
        if node.content = [] then [] else node.content.rows.map escapeMacros := by
    split
    · rfl
    · rw [List.flatMap_singleton, rows_escapeMacros]
  have blank : List.flatMap Text.rows [[]] = [[]] := rfl
  refine ⟨name, links, found, leads, ?_⟩
  rw [rowsOf, List.flatMap_append, List.cons_append, List.flatMap_cons, List.flatMap_append, content,
    Text.flatMap_rows_of_not_mem single, blank,
    Text.rows_of_not_mem (newline_not_mem_headline (namesSingle _ _ found) node)]
  rfl

end Passage

theorem Digest.newline_not_mem_renderId (bytes : List UInt8) : '\n' ∉ renderId bytes := by
  have digits : ∀ n < 16, (Text.hexDigit n).toUpper ≠ '\n' := by decide
  have pairs : ∀ width n, '\n' ∉ (Text.hexDigits width n).map Char.toUpper := by
    intro width
    induction width with
    | zero => simp [Text.hexDigits]
    | succ width ih =>
        intro n
        have last := digits (n % 16) (Nat.mod_lt n (by decide))
        simp only [Text.hexDigits, List.map_append, List.mem_append, not_or]
        exact ⟨ih (n / 16), by simpa using last.symm⟩
  intro member
  obtain ⟨⟨byte, index⟩, _, inside⟩ := List.mem_flatMap.mp member
  rcases List.mem_append.mp inside with hyphen | digit
  · split at hyphen
    · exact absurd hyphen (by decide)
    · simp at hyphen
  · exact pairs 2 byte.toNat digit

namespace Graph

def titlePassage (graph : Graph) : List Text :=
  ":: StoryTitle" :: ((title graph.metadata).rows ++ [[]])

def dataRow (graph : Graph) : Text :=
  "\x7b\"ifid\": \"" ++ graph.storyId ++
    "\", \"format\": \"SugarCube\", \"format-version\": \"2.37.3\"\x7d"

def dataPassage (graph : Graph) : List Text := [":: StoryData", graph.dataRow, []]

/-- The rows of the title and of the text of nodes that start a passage where they stand. -/
def mistakenRows (graph : Graph) : List Text :=
  Passage.mistaken (title graph.metadata) ++
    graph.nodes.values.flatMap fun node => Passage.mistaken node.content

theorem newline_not_mem_dataRow (graph : Graph) : '\n' ∉ graph.dataRow := by
  intro member
  rcases List.mem_append.mp member with (before | ending)
  · rcases List.mem_append.mp before with (opening | story)
    · exact absurd opening (by decide +kernel)
    · exact Digest.newline_not_mem_renderId _ story
  · exact absurd ending (by decide +kernel)

theorem passageHeader_eq (graph : Graph) :
    graph.passageHeader = [":: StoryTitle" ++ '\n' :: title graph.metadata, [],
      ":: StoryData" ++ '\n' :: graph.dataRow, []] := by
  have titled : (":: StoryTitle\n" : Text) = ":: StoryTitle" ++ ['\n'] := by decide +kernel
  have described : (":: StoryData\n\x7b\"ifid\": \"" : Text) =
      ":: StoryData" ++ '\n' :: "\x7b\"ifid\": \"".toList := by decide +kernel
  have regroup : ∀ header opening story closing : Text,
      header ++ '\n' :: opening ++ story ++ closing =
        header ++ '\n' :: (opening ++ story ++ closing) := by simp
  -- Rewriting with these would compare the literals with each other letter by letter.
  have first := (congrArg (· ++ title graph.metadata) titled).trans (List.append_cons _ _ _).symm
  have second := (congrArg (· ++ graph.storyId ++
    "\", \"format\": \"SugarCube\", \"format-version\": \"2.37.3\"\x7d".toList)
      described).trans (regroup _ _ _ _)
  exact congrArg₂ (fun one other => [one, [], other, []]) first second

theorem flatMap_rows_passageHeader (graph : Graph) :
    graph.passageHeader.flatMap Text.rows = graph.titlePassage ++ graph.dataPassage := by
  have titled : Text.rows (":: StoryTitle" ++ '\n' :: title graph.metadata) =
      (":: StoryTitle" : Text) :: (title graph.metadata).rows :=
    Text.splitOn_append '\n' ":: StoryTitle" (title graph.metadata) (by decide)
  have described : Text.rows (":: StoryData" ++ '\n' :: graph.dataRow) =
      [(":: StoryData" : Text), graph.dataRow] := by
    rw [Text.rows, Text.splitOn_append _ _ _ (by decide),
      Text.splitOn_of_not_mem _ _ graph.newline_not_mem_dataRow]
  have blank : Text.rows [] = [[]] := rfl
  rw [passageHeader_eq, titlePassage, dataPassage, List.flatMap_cons, List.flatMap_cons,
    List.flatMap_cons, List.flatMap_cons, List.flatMap_nil, titled, described, blank]
  simp only [List.cons_append, List.nil_append, List.append_assoc]

theorem isHeader_storyTitle : Passage.isHeader ":: StoryTitle" = true := by decide +kernel

theorem isHeader_storyData : Passage.isHeader ":: StoryData" = true := by decide +kernel

theorem isHeader_dataRow (graph : Graph) : Passage.isHeader graph.dataRow = false := rfl

theorem length_headers_titlePassage (graph : Graph) :
    (graph.titlePassage.filter Passage.isHeader).length =
      1 + (Passage.mistaken (title graph.metadata)).length := by
  have blank : List.filter Passage.isHeader [[]] = [] := rfl
  rw [titlePassage, List.filter_cons_of_pos isHeader_storyTitle, List.filter_append, blank,
    List.append_nil, List.length_cons, Passage.mistaken, Nat.add_comm]

theorem whole_titlePassage {graph : Graph} (clear : Passage.mistaken (title graph.metadata) = []) :
    Passage.Whole graph.titlePassage := by
  refine ⟨":: StoryTitle", _, rfl, isHeader_storyTitle, ?_⟩
  intro row member
  rcases List.mem_append.mp member with titled | blank
  · simpa using List.filter_eq_nil_iff.mp clear row titled
  · rw [List.mem_singleton.mp blank]
    rfl

theorem whole_dataPassage (graph : Graph) : Passage.Whole graph.dataPassage := by
  refine ⟨":: StoryData", [graph.dataRow, []], rfl, isHeader_storyData, ?_⟩
  intro row member
  rcases List.mem_pair.mp member with rfl | rfl
  · exact graph.isHeader_dataRow
  · rfl

structure Presentable (graph : Graph) : Prop where
  knots : ∀ node ∈ graph.nodes.values, node.knot.Unbroken
  texts : ∀ node ∈ graph.nodes.values, ∀ edge ∈ node.edges, edge.text.Unbroken
  targets : ∀ node ∈ graph.nodes.values, ∀ edge ∈ node.edges,
    ∃ target ∈ graph.nodes.values, target.id = edge.target

theorem Charts.presentable {graph : Graph} {script : Script} {entry : Text}
    (charts : graph.Charts script entry) (unbroken : script.Unbroken) : graph.Presentable := by
  constructor
  · intro node member
    obtain ⟨key, found⟩ := mem_values.mp member
    obtain ⟨position, reachable, stands⟩ := charts.reached key node found
    rw [stands.fields.2.1]
    exact unbroken.names _ (Script.knot?_eq_some reachable.found).1
  · intro node member edge present
    obtain ⟨key, found⟩ := mem_values.mp member
    obtain ⟨position, reachable, stands⟩ := charts.reached key node found
    have offers := charts.offers key node found position reachable stands
    obtain ⟨choice, offered, text⟩ := exists_of_forall₂_left offers present
    rw [text.text]
    have member := (Script.mem_options.mp offered).1
    exact unbroken.choices _ (Script.knot?_eq_some reachable.found).1 choice member
  · intro node member edge present
    obtain ⟨key, found⟩ := mem_values.mp member
    obtain ⟨target, targetFound⟩ := charts.closed key node found edge present
    exact ⟨target, mem_values.mpr ⟨_, targetFound⟩, charts.keyed _ _ targetFound⟩

theorem forall_namedPassages {graph : Graph} {good : Text → Prop} (starts : good Passage.start)
    (fresh : ∀ node ∈ graph.nodes.values, ∀ n,
      good (Passage.candidate (Passage.baseName node.knot) n)) :
    ∀ key name, graph.namedPassages.find? key = some name → good name := by
  refine Passage.forall_nameNodes fresh ?_ _
  intro key name started
  rw [Table.find?_insert] at started
  split at started
  · cases started
    exact starts
  · cases started

theorem Presentable.namedPassages_single {graph : Graph} (presentable : graph.Presentable) :
    ∀ key name, graph.namedPassages.find? key = some name → '\n' ∉ name := by
  intro key name found
  refine Text.Unbroken.newline (forall_namedPassages (by decide) ?_ key name found)
  intro node member
  exact Passage.unbroken_candidate (Passage.unbroken_baseName (presentable.knots node member))

def joinPassages (graph : Graph) (passages : List (List Text)) : Text :=
  Text.joinWith ['\n'] (graph.passageHeader ++ passages.flatMap fun lines => lines ++ [[]])

theorem exists_passages {graph : Graph} (targets : ∀ node ∈ graph.nodes.values,
      ∀ edge ∈ node.edges, ∃ target ∈ graph.nodes.values, target.id = edge.target) :
    ∃ passages, graph.renderPassages = .ok (graph.joinPassages passages) ∧
      List.Forall₂ (fun node lines => Passage.ofNode graph.namedPassages node = .ok lines ∧
        Passage.Written graph.namedPassages node lines) graph.nodes.values passages := by
  have named : ∀ node ∈ graph.nodes.values,
      ∃ name, graph.namedPassages.find? node.id = some name :=
    fun node member => Passage.exists_name member _ _
  have written : ∀ node ∈ graph.nodes.values, ∃ lines,
      Passage.ofNode graph.namedPassages node = .ok lines ∧
        Passage.ofNode graph.namedPassages node = .ok lines ∧
          Passage.Written graph.namedPassages node lines := by
    intro node member
    have leads : ∀ edge ∈ node.edges,
        ∃ target, graph.namedPassages.find? edge.target = some target := by
      intro edge present
      obtain ⟨target, targetMember, same⟩ := targets node member edge present
      rw [← same]
      exact named target targetMember
    obtain ⟨lines, made, holds⟩ := Passage.exists_written (named node member) leads
    exact ⟨lines, made, made, holds⟩
  obtain ⟨passages, mapped, all⟩ := exists_mapM_eq_ok written
  refine ⟨passages, ?_, all⟩
  rw [renderPassages, mapped]
  rfl

theorem Presentable.shows_rowsOf {graph : Graph} (presentable : graph.Presentable)
    {passages : List (List Text)}
    (written : List.Forall₂ (Passage.Written graph.namedPassages) graph.nodes.values passages) :
    List.Forall₂ (Passage.Shows graph.namedPassages) graph.nodes.values
      (passages.map Passage.rowsOf) := by
  rw [List.forall₂_map_right_iff]
  have within := (List.forall₂_and_left graph.nodes.values _).mpr ⟨fun _ member => member, written⟩
  refine within.imp ?_
  rintro node lines ⟨member, holds⟩
  exact holds.shows presentable.namedPassages_single
    fun edge present => (presentable.texts node member edge present).newline

theorem rows_joinPassages (graph : Graph) (passages : List (List Text)) :
    (graph.joinPassages passages).rows =
      (graph.titlePassage :: graph.dataPassage :: passages.map Passage.rowsOf).flatten := by
  have filled : graph.passageHeader ++ passages.flatMap (fun lines => lines ++ [[]]) ≠ [] := by
    simp [passageHeader]
  have rows := Text.splitOn_joinWith_flatMap '\n' filled
  rw [Text.rows, joinPassages, rows]
  show List.flatMap Text.rows _ = _
  rw [List.flatMap_append, flatMap_rows_passageHeader, List.flatMap_assoc, List.flatten_cons,
    List.flatten_cons, List.append_assoc, List.flatMap_def]
  rfl

end Graph

theorem Graph.presentable_of_compile {source : Text} {options : CompileOptions} {graph : Graph}
    (compiled : compile source options = .ok graph) : graph.Presentable := by
  obtain ⟨script, base, parsed, built, rfl⟩ := compile_eq_ok compiled
  have presentable := (Script.charts_graph built).presentable (Script.unbroken_of_read parsed)
  exact ⟨presentable.knots, presentable.texts, presentable.targets⟩

/-- A story that compiles can be written as passages. Read again, there is one for the title, one for
the data, one for every node, and one more for every row of the title or of a node's text that starts
with two colons. So the passages are those of title, data and nodes exactly if there is no such row. -/
theorem passages_are_nodes_and_mistaken_rows {source : Text} {options : CompileOptions}
    {graph : Graph} (compiled : compile source options = .ok graph) :
    ∃ rendered, graph.renderPassages = .ok rendered ∧
      (Passage.cut rendered.rows).1 = [] ∧
      (Passage.cut rendered.rows).2.length =
        graph.nodes.size + 2 + graph.mistakenRows.length ∧
      (graph.mistakenRows = [] ↔ ∃ passages,
        (Passage.cut rendered.rows).2 = graph.titlePassage :: graph.dataPassage :: passages ∧
          List.Forall₂ (Passage.Shows graph.namedPassages) graph.nodes.values passages) := by
  have presentable := Graph.presentable_of_compile compiled
  obtain ⟨texts, written, each⟩ := Graph.exists_passages presentable.targets
  have shown := presentable.shows_rowsOf (each.imp fun _ _ both => both.2)
  have rows := graph.rows_joinPassages texts
  generalize graph.joinPassages texts = rendered at written rows
  generalize texts.map Passage.rowsOf = passages at shown rows
  have nodes : graph.nodes.values.length = graph.nodes.size := List.length_map _
  have count : (Passage.cut rendered.rows).2.length =
      graph.nodes.size + 2 + graph.mistakenRows.length := by
    have data := graph.whole_dataPassage.length_headers
    rw [Passage.length_cut, rows, List.flatten_cons, List.flatten_cons, List.filter_append,
      List.filter_append, List.length_append, List.length_append,
      graph.length_headers_titlePassage, data, Passage.length_headers_flatten shown, nodes,
      Graph.mistakenRows, List.length_append]
    omega
  refine ⟨rendered, written, ?_, count, ?_, ?_⟩
  · rw [rows, List.flatten_cons, Graph.titlePassage, List.cons_append]
    exact Passage.cut_of_isHeader Graph.isHeader_storyTitle _
  · intro clear
    obtain ⟨titleClear, nodesClear⟩ := List.append_eq_nil_iff.mp clear
    refine ⟨passages, ?_, shown⟩
    rw [rows, Passage.cut_flatten]
    intro passage member
    simp only [List.mem_cons] at member
    rcases member with rfl | rfl | member
    · exact Graph.whole_titlePassage titleClear
    · exact graph.whole_dataPassage
    · obtain ⟨node, present, tells⟩ := exists_of_forall₂ shown member
      exact tells.whole (List.flatMap_eq_nil_iff.mp nodesClear node present)
  · -- Passages of title, data and nodes alone leave no room for another one.
    rintro ⟨others, split, told⟩
    have same := told.length_eq
    rw [split, List.length_cons, List.length_cons] at count
    exact List.length_eq_zero_iff.mp (by omega)

def quayStory : Text :=
  Text.joinWith ['\n']
    ["// title: Quay :: night", "=== index ===", "A bell :: rings.", " : : <<fog>>", "* Wait -> index",
     "* Go [aboard] -> deck", "=== deck ===", "END"]

theorem passages_are_nodes_and_mistaken_rows_quay :
    ∃ graph rendered, compile quayStory = .ok graph ∧ graph.renderPassages = .ok rendered ∧
      (Passage.cut rendered.rows).2.length = 4 ∧ ∃ passages,
        (Passage.cut rendered.rows).2 = graph.titlePassage :: graph.dataPassage :: passages ∧
          List.Forall₂ (Passage.Shows graph.namedPassages) graph.nodes.values passages := by
  have computed : ((compile quayStory).toOption.map fun graph =>
      decide (graph.nodes.size = 2 ∧ graph.mistakenRows = [])) = some true := by
    decide +kernel
  obtain ⟨graph, compiled, facts⟩ := Option.map_eq_some_iff.mp computed
  obtain ⟨size, clear⟩ := of_decide_eq_true facts
  have compiled := Except.eq_ok_of_toOption compiled
  obtain ⟨rendered, written, _, count, passages⟩ := passages_are_nodes_and_mistaken_rows compiled
  refine ⟨graph, rendered, compiled, written, ?_, passages.mp clear⟩
  rw [count, size, clear]
  rfl

def signStory : Text :=
  Text.joinWith ['\n']
    ["=== index ===", "Look:", ":: exit", "* Go -> end", "=== end ===", "END"]

theorem passages_exceed_nodes_sign :
    ∃ graph rendered, compile signStory = .ok graph ∧ graph.renderPassages = .ok rendered ∧
      (Passage.cut rendered.rows).2.length ≠ graph.nodes.size + 2 ∧
      (Passage.cut rendered.rows).2.map (fun passage => passage.headD []) =
        [":: StoryTitle", ":: StoryData", ":: Start [start]", ":: exit", ":: end [ending]"] := by
  have computed : ((compile signStory).toOption.bind fun graph =>
      graph.renderPassages.toOption.map fun rendered =>
        decide ((Passage.cut rendered.rows).2.length ≠ graph.nodes.size + 2 ∧
          (Passage.cut rendered.rows).2.map (fun passage => passage.headD []) =
            [":: StoryTitle".toList, ":: StoryData".toList, ":: Start [start]".toList,
             ":: exit".toList, ":: end [ending]".toList])) = some true := by
    decide +kernel
  obtain ⟨graph, compiled, computed⟩ := Option.bind_eq_some_iff.mp computed
  obtain ⟨rendered, written, facts⟩ := Option.map_eq_some_iff.mp computed
  exact ⟨graph, rendered, Except.eq_ok_of_toOption compiled, Except.eq_ok_of_toOption written,
    of_decide_eq_true facts⟩

end Knotwork
