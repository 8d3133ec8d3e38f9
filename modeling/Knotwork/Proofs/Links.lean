import Knotwork.Proofs.Cutting
import Knotwork.Proofs.Passages

/-! How a player reads the links of a story. In the short form a separator divides the label from the
target; in the form of a macro both are quoted texts. Main statements: a link in the short form has the
one separator that was written, and another one exactly if the label ends with the first half of it;
a link in the form of a macro is read back exactly if no backslash stands in label and target and no
quote in the target. -/

namespace Knotwork

def Edge.label (edge : Edge) (target : Text) : Text := if edge.text = [] then target else edge.text

namespace Passage

/-! The short form. -/

def separators : List Text := [['-', '>'], ['<', '-'], ['|']]

/-- A separator stands between two parts of a link. Separators may overlap. -/
def Divides (body separator before after : Text) : Prop :=
  separator ∈ separators ∧ body = before ++ separator ++ after

def Plain (name : Text) : Prop := ∀ c ∈ name, isSpecial c = false

instance (name : Text) : Decidable (Plain name) :=
  decidable_of_iff (name.all fun c => !isSpecial c) (by simp [Plain])

theorem Plain.not_mem {name : Text} (plain : Plain name) {c : Char} (special : isSpecial c = true) :
    c ∉ name := by
  intro member
  rw [plain c member] at special
  cases special

theorem plain_baseName (knot : Text) : Plain (baseName knot) := by
  intro c member
  obtain ⟨original, _, rfl⟩ := List.mem_map.mp member
  split
  · rfl
  · rename_i harmless
    simpa using harmless

theorem plain_ofNat (n : Nat) : Plain (Text.ofNat n) := by
  intro c member
  have digit := Text.isDigit_of_mem_ofNat member
  have none : (['[', ']', '{', '}', '|', '<', '>'].all fun c => !c.isDigit) = true := by decide
  rw [isSpecial, List.contains_eq_mem, decide_eq_false_iff_not]
  intro special
  have other := List.all_eq_true.mp none c special
  rw [digit] at other
  cases other

theorem plain_candidate (knot : Text) (n : Nat) : Plain (candidate (baseName knot) n) := by
  unfold candidate
  split
  · exact plain_baseName knot
  · have opened : Plain " (" := by decide
    have closed : Plain ")" := by decide
    simp only [Plain, List.forall_mem_append]
    exact ⟨⟨⟨plain_baseName knot, opened⟩, plain_ofNat (n + 1)⟩, closed⟩

end Passage

theorem Graph.plain_namedPassages (graph : Graph) :
    ∀ key name, graph.namedPassages.find? key = some name → Passage.Plain name :=
  Graph.forall_namedPassages (by decide)
    fun node _ => Passage.plain_candidate node.knot

namespace Passage

theorem right_arrow_inj {label target before after : Text} (right : ¬['-', '>'] <:+: label)
    (plain : Plain target)
    (split : label ++ ['-', '>'] ++ target = before ++ ['-', '>'] ++ after) :
    before = label ∧ after = target := by
  rw [List.append_assoc, List.append_assoc] at split
  rcases Text.append_eq_append_pair.mp split with ⟨middle, inside, _⟩ | ⟨_, joint⟩ |
      ⟨middle, earlier, later⟩
  · exact absurd (Text.pair_infix_iff.mpr ⟨before, middle, inside⟩) right
  · cases joint
  · rcases Text.append_eq_append_pair.mp later with ⟨rest, arrow, same⟩ | ⟨arrow, _⟩ |
        ⟨rest, _, inside⟩
    · have sizes := congrArg List.length arrow
      simp only [List.length_append, List.length_cons, List.length_nil] at sizes
      obtain rfl : middle = [] := List.length_eq_zero_iff.mp (by omega)
      obtain rfl : rest = [] := List.length_eq_zero_iff.mp (by omega)
      exact ⟨by simpa using earlier, same⟩
    · have last := congrArg List.getLast? arrow
      simp at last
    · exact absurd (by simp [inside]) (plain.not_mem (c := '>') (by decide))

theorem left_arrow_at_joint {label target before after : Text} (left : ¬['<', '-'] <:+: label)
    (plain : Plain target)
    (split : label ++ ['-', '>'] ++ target = before ++ ['<', '-'] ++ after) :
    label = before ++ ['<'] ∧ after = '>' :: target := by
  rw [List.append_assoc, List.append_assoc] at split
  rcases Text.append_eq_append_pair.mp split with ⟨middle, inside, _⟩ | ⟨ends, joint⟩ |
      ⟨middle, _, later⟩
  · exact absurd (Text.pair_infix_iff.mpr ⟨before, middle, inside⟩) left
  · exact ⟨ends, (List.cons.inj joint).2.symm⟩
  · have angle : '<' ∈ ['-', '>'] ++ target := by simp [later]
    simp [plain.not_mem (c := '<') (by decide)] at angle

theorem divides_iff {label target : Text} (right : ¬['-', '>'] <:+: label)
    (left : ¬['<', '-'] <:+: label) (bar : '|' ∉ label) (plain : Plain target)
    {separator before after : Text} :
    Divides (label ++ ['-', '>'] ++ target) separator before after ↔
      (separator = ['-', '>'] ∧ before = label ∧ after = target) ∨
        (separator = ['<', '-'] ∧ label = before ++ ['<'] ∧ after = '>' :: target) := by
  constructor
  · rintro ⟨known, split⟩
    rw [separators, List.mem_cons, List.mem_cons, List.mem_singleton] at known
    rcases known with rfl | rfl | rfl
    · exact Or.inl ⟨rfl, right_arrow_inj right plain split⟩
    · exact Or.inr ⟨rfl, left_arrow_at_joint left plain split⟩
    · have noBar : '|' ∉ label ++ ['-', '>'] ++ target := by
        simp [bar, plain.not_mem (c := '|') (by decide)]
      exact absurd (by rw [split]; simp) noBar
  · rintro (⟨rfl, rfl, rfl⟩ | ⟨rfl, rfl, rfl⟩)
    · exact ⟨by decide, rfl⟩
    · exact ⟨by decide, by simp⟩

theorem existsUnique_divides_iff {label target : Text} (right : ¬['-', '>'] <:+: label)
    (left : ¬['<', '-'] <:+: label) (bar : '|' ∉ label) (plain : Plain target) :
    (∃! division : Text × Text × Text,
        Divides (label ++ ['-', '>'] ++ target) division.1 division.2.1 division.2.2) ↔
      label.getLast? ≠ some '<' := by
  simp only [divides_iff right left bar plain]
  constructor
  · rintro ⟨division, _, unique⟩ last
    obtain ⟨before, rfl⟩ := List.getLast?_eq_some_iff.mp last
    have arrow := unique (['-', '>'], before ++ ['<'], target) (Or.inl ⟨rfl, rfl, rfl⟩)
    have other := unique (['<', '-'], before, '>' :: target) (Or.inr ⟨rfl, rfl, rfl⟩)
    rw [← other] at arrow
    cases arrow
  · intro last
    refine ⟨(['-', '>'], label, target), Or.inl ⟨rfl, rfl, rfl⟩, ?_⟩
    rintro ⟨separator, before, after⟩ (⟨rfl, rfl, rfl⟩ | ⟨_, rfl, _⟩)
    · rfl
    · simp at last

theorem body_of_link {label target body : Text}
    (short : link label target = '[' :: '[' :: body ++ [']', ']']) :
    body = label ++ ['-', '>'] ++ target ∧ ¬['-', '>'] <:+: label ∧ ¬['<', '-'] <:+: label ∧
      '|' ∉ label := by
  unfold link at short
  split at short
  · have first : some '<' = some '[' := congrArg List.head? short
    cases first
  · rename_i unmarked
    have absent : ∀ mark ∈ labelMarks, mark ≠ [] → ¬mark <:+: label := by
      intro mark member nonempty
      have none := List.any_eq_false.mp (Bool.not_eq_true _ ▸ unmarked) mark member
      rw [← Text.cut?_eq_none_iff nonempty]
      simpa [Text.hasMark] using none
    have written : ['[', '['] ++ (label ++ ['-', '>'] ++ target) ++ [']', ']'] =
        ['[', '['] ++ body ++ [']', ']'] := by
      rw [← List.append_assoc, ← List.append_assoc]
      exact short
    refine ⟨?_, absent _ (by decide) (by simp), absent _ (by decide) (by simp), ?_⟩
    · exact (List.append_cancel_left (List.append_cancel_right written)).symm
    · intro bar
      obtain ⟨before, after, rfl⟩ := List.append_of_mem bar
      exact absent ['|'] (by decide) (by simp) ⟨before, after, by simp⟩

/-! The form of a macro. -/

/-- Reads a quoted text after its first quote, up to the quote that ends it, and what follows. A
backslash stands before a character that is meant as it is. -/
def unquote : Text → Option (Text × Text)
  | [] => none
  | '"' :: rest => some ([], rest)
  | '\\' :: c :: rest => (unquote rest).map fun read => (c :: read.1, read.2)
  | c :: rest =>
      if c = '\\' then none else (unquote rest).map fun read => (c :: read.1, read.2)

def readArguments (t : Text) : Option (Text × Text × Text) := do
  let rest ← ['"'].isPrefixOf? t
  let (label, rest) ← unquote rest
  let rest ← [' ', '"'].isPrefixOf? rest
  let (target, rest) ← unquote rest
  return (label, target, rest)

@[simp] theorem unquote_quote (rest : Text) : unquote ('"' :: rest) = some ([], rest) := rfl

@[simp] theorem unquote_backslash (c : Char) (rest : Text) :
    unquote ('\\' :: c :: rest) = (unquote rest).map fun read => (c :: read.1, read.2) := rfl

theorem unquote_cons {c : Char} (quote : c ≠ '"') (backslash : c ≠ '\\') (rest : Text) :
    unquote (c :: rest) = (unquote rest).map fun read => (c :: read.1, read.2) := by
  rw [unquote, if_neg backslash]
  · exact quote
  · rintro d others rfl
    exact absurd rfl backslash

theorem map_cons_eq_some_iff {c : Char} {found : Option (Text × Text)} {read after : Text} :
    (found.map fun others => (c :: others.1, others.2)) = some (read, after) ↔
      ∃ others, read = c :: others ∧ found = some (others, after) := by
  cases found with
  | none => simp
  | some parts =>
      obtain ⟨others, last⟩ := parts
      simp only [Option.map_some, Option.some.injEq, Prod.mk.injEq]
      constructor
      · rintro ⟨rfl, rfl⟩
        exact ⟨others, rfl, rfl, rfl⟩
      · rintro ⟨_, rfl, rfl, rfl⟩
        exact ⟨rfl, rfl⟩

theorem length_unquote {t read after : Text} (found : unquote t = some (read, after)) :
    read.length + after.length < t.length := by
  fun_induction unquote t generalizing read with
  | case1 => cases found
  | case2 rest =>
      cases found
      simp
  | case3 c rest ih =>
      obtain ⟨others, rfl, later⟩ := map_cons_eq_some_iff.mp found
      have shorter := ih later
      simp only [List.length_cons]
      omega
  | case4 => cases found
  | case5 c rest _ _ _ ih =>
      obtain ⟨others, rfl, later⟩ := map_cons_eq_some_iff.mp found
      have shorter := ih later
      simp only [List.length_cons]
      omega

theorem unquote_append_iff {t after : Text} :
    unquote (t ++ '"' :: after) = some (t, after) ↔ '"' ∉ t ∧ '\\' ∉ t := by
  induction t with
  | nil => simp
  | cons c rest ih =>
      by_cases quote : c = '"'
      · simp [quote]
      · by_cases backslash : c = '\\'
        · -- A backslash takes two characters for one, so the text comes out too short.
          refine iff_of_false ?_ (by simp [backslash])
          intro found
          obtain ⟨d, others, next⟩ : ∃ d others, rest ++ '"' :: after = d :: others :=
            List.exists_cons_of_ne_nil (by simp)
          rw [backslash, List.cons_append, next, unquote_backslash, map_cons_eq_some_iff] at found
          obtain ⟨read, same, later⟩ := found
          obtain ⟨_, rfl⟩ := List.cons.inj same
          have shorter := length_unquote later
          have sizes := congrArg List.length next
          simp only [List.length_append, List.length_cons] at sizes
          omega
        · rw [List.cons_append, unquote_cons quote backslash, map_cons_eq_some_iff]
          simp [ih, Ne.symm quote, Ne.symm backslash]

def quoted (label rest : Text) : Text :=
  Text.replace ['"'] ['\\', '"'] label ++ '"' :: ' ' :: '"' :: rest

theorem unquote_quoted_cons {c : Char} (backslash : c ≠ '\\') (label rest : Text) :
    unquote (quoted (c :: label) rest) =
      (unquote (quoted label rest)).map fun read => (c :: read.1, read.2) := by
  rw [quoted, Text.replace_char_cons]
  split
  · rename_i quote
    rw [quote]
    rfl
  · rename_i quote
    exact unquote_cons quote backslash _

theorem unquote_quoted_backslash {c : Char} (quote : c ≠ '"') (label rest : Text) :
    unquote (quoted ('\\' :: c :: label) rest) =
      (unquote (quoted label rest)).map fun read => (c :: read.1, read.2) := by
  rw [quoted, Text.replace_char_cons, if_neg (by decide), Text.replace_char_cons, if_neg quote]
  rfl

theorem unquote_quoted_backslash_quote (label rest : Text) :
    unquote (quoted ('\\' :: '"' :: label) rest) = some (['\\'], quoted label rest) := by
  rw [quoted, Text.replace_char_cons, if_neg (by decide), Text.replace_char_cons, if_pos rfl]
  rfl

theorem unquote_quoted_ne (extra : Text) {label : Text}
    (odd : extra ≠ [] ∨ label.head? = some '\\') (rest after : Text) :
    unquote (quoted label rest) ≠ some (extra ++ label, after) := by
  -- The induction is on the length, because a backslash and what follows it come off together.
  induction length : label.length using Nat.strong_induction_on generalizing label extra with
  | _ bound ih =>
      subst length
      intro read
      cases label with
      | nil =>
          rw [quoted, Text.replace_nil, List.nil_append, unquote_quote, List.append_nil] at read
          cases read
          simp at odd
      | cons c label =>
          by_cases backslash : c = '\\'
          · subst backslash
            cases label with
            | nil =>
                -- The backslash hides the quote at the end, and reading goes on up to the target.
                have closing : (['"', ' '], rest) = (extra ++ ['\\'], after) := Option.some.inj read
                have last := congrArg (fun parts => parts.1.getLast?) closing
                simp at last
            | cons d label =>
                by_cases quote : d = '"'
                · rw [quote, unquote_quoted_backslash_quote, Option.some.injEq, Prod.mk.injEq] at read
                  have sizes := congrArg List.length read.1
                  simp only [List.length_append, List.length_cons, List.length_nil] at sizes
                  omega
                · rw [unquote_quoted_backslash quote, map_cons_eq_some_iff] at read
                  obtain ⟨others, same, later⟩ := read
                  obtain ⟨more, filled, rfl⟩ : ∃ more, more ≠ [] ∧ others = more ++ label := by
                    cases extra with
                    | nil => exact ⟨[d], by simp, (List.cons.inj same).2.symm⟩
                    | cons e extra =>
                        refine ⟨extra ++ ['\\', d], by simp, ?_⟩
                        rw [← (List.cons.inj same).2]
                        simp
                  exact ih label.length (by simp only [List.length_cons]; omega) more (Or.inl filled)
                    rfl later
          · rw [unquote_quoted_cons backslash, map_cons_eq_some_iff] at read
            obtain ⟨others, same, later⟩ := read
            cases extra with
            | nil => simp [backslash] at odd
            | cons e extra =>
                have longer : others = extra ++ [c] ++ label := by
                  rw [← (List.cons.inj same).2]
                  simp
                rw [longer] at later
                exact ih label.length (by simp) (extra ++ [c]) (Or.inl (by simp)) rfl later

theorem unquote_quoted_iff {label rest after : Text} :
    unquote (quoted label rest) = some (label, after) ↔
      '\\' ∉ label ∧ after = ' ' :: '"' :: rest := by
  induction label with
  | nil =>
      rw [quoted, Text.replace_nil, List.nil_append, unquote_quote]
      simp [eq_comm]
  | cons c label ih =>
      by_cases backslash : c = '\\'
      · refine iff_of_false ?_ (by simp [backslash])
        exact unquote_quoted_ne [] (Or.inr (by simp [backslash])) rest after
      · rw [unquote_quoted_cons backslash, map_cons_eq_some_iff]
        simp [ih, Ne.symm backslash]

theorem readArguments_iff {label target after : Text} :
    readArguments ('"' :: quoted label (target ++ '"' :: after)) = some (label, target, after) ↔
      '\\' ∉ label ∧ '"' ∉ target ∧ '\\' ∉ target := by
  simp only [readArguments, Option.bind_eq_bind, Option.bind_eq_some_iff,
    List.isPrefixOf?_eq_some_iff_append_eq]
  constructor
  · rintro ⟨_, opened, ⟨_, between⟩, labelRead, _, divided, ⟨_, _⟩, targetRead, same⟩
    cases opened
    cases same
    obtain ⟨plain, rfl⟩ := unquote_quoted_iff.mp labelRead
    cases divided
    exact ⟨plain, unquote_append_iff.mp targetRead⟩
  · rintro ⟨plain, target⟩
    exact ⟨_, rfl, _, unquote_quoted_iff.mpr ⟨plain, rfl⟩, _, rfl, _, unquote_append_iff.mpr target,
      rfl⟩

theorem arguments_of_link {label target rest : Text}
    (marked : link label target = "<<link " ++ rest) :
    rest = '"' :: quoted label (target ++ '"' :: ">><</link>>".toList) := by
  unfold link at marked
  split at marked
  · have written : ("<<link " : Text) ++ '"' :: quoted label (target ++ '"' :: ">><</link>>".toList) =
        "<<link " ++ rest := by
      rw [← marked, quoted]
      simp only [List.append_assoc]
      rfl
    exact (List.append_cancel_left written).symm
  · have first : some '[' = some '<' := congrArg List.head? marked
    cases first

end Passage

namespace Graph

theorem Presentable.exists_link {graph : Graph} (presentable : graph.Presentable) {node : Node}
    {edge : Edge} (member : (node, edge) ∈ graph.edges) :
    ∃ target, graph.namedPassages.find? edge.target = some target ∧
      Passage.ofEdge graph.namedPassages edge =
        .ok (Passage.link (edge.label target) target) := by
  obtain ⟨found, present⟩ := mem_edges.mp member
  obtain ⟨next, nextMember, same⟩ := presentable.targets node (mem_values.mpr found) edge present
  have named : ∃ target, graph.namedPassages.find? next.id = some target :=
    Passage.exists_name nextMember _ _
  rw [same] at named
  obtain ⟨row, linked, target, targetNamed, rfl⟩ := Passage.exists_ofEdge named
  exact ⟨target, targetNamed, linked⟩

end Graph

/-- A link in the short form is divided by the arrow between its label and its target. It is divided in
no other way, except that the arrow makes a second separator with an angle at the end of the label. So
there is one separator exactly if the label does not end with such an angle. -/
theorem short_links_divide_at_arrow {source : Text} {options : CompileOptions} {graph : Graph}
    (compiled : compile source options = .ok graph) {node : Node} {edge : Edge}
    (member : (node, edge) ∈ graph.edges) :
    ∃ target, graph.namedPassages.find? edge.target = some target ∧
      Passage.ofEdge graph.namedPassages edge =
        .ok (Passage.link (edge.label target) target) ∧
      ∀ body, Passage.link (edge.label target) target = '[' :: '[' :: body ++ [']', ']'] →
        (∀ separator before after, Passage.Divides body separator before after ↔
          (separator = ['-', '>'] ∧ before = edge.label target ∧ after = target) ∨
            (separator = ['<', '-'] ∧ edge.label target = before ++ ['<'] ∧
              after = '>' :: target)) ∧
        ((∃! division : Text × Text × Text,
            Passage.Divides body division.1 division.2.1 division.2.2) ↔
          (edge.label target).getLast? ≠ some '<') := by
  obtain ⟨target, named, linked⟩ := (Graph.presentable_of_compile compiled).exists_link member
  refine ⟨target, named, linked, ?_⟩
  intro body short
  obtain ⟨rfl, right, left, bar⟩ := Passage.body_of_link short
  have plain := graph.plain_namedPassages _ _ named
  exact ⟨fun _ _ _ => Passage.divides_iff right left bar plain,
    Passage.existsUnique_divides_iff right left bar plain⟩

theorem exists_first_link (source label target : Text) {row : Text} (nonempty : label ≠ [])
    (written : Passage.link label target = row)
    (computed : ((compile source).toOption.bind fun graph => graph.edges.head?.map fun first =>
      decide (first.2.text = label ∧ graph.namedPassages.find? first.2.target = some target)) =
        some true) :
    ∃ graph node edge, compile source = .ok graph ∧ (node, edge) ∈ graph.edges ∧
      edge.label target = label ∧ graph.namedPassages.find? edge.target = some target ∧
      Passage.ofEdge graph.namedPassages edge = .ok row := by
  obtain ⟨graph, compiled, computed⟩ := Option.bind_eq_some_iff.mp computed
  obtain ⟨⟨node, edge⟩, first, facts⟩ := Option.map_eq_some_iff.mp computed
  obtain ⟨text, named⟩ := of_decide_eq_true facts
  have shown : edge.label target = label := by rw [Edge.label, text, if_neg nonempty]
  refine ⟨graph, node, edge, Except.eq_ok_of_toOption compiled, List.mem_of_head? first, shown,
    named, ?_⟩
  obtain ⟨row, linked, _, found, rfl⟩ := Passage.exists_ofEdge ⟨target, named⟩
  cases named.symm.trans found
  rw [linked, ← written, ← shown, Edge.label]

def pierStory : Text :=
  Text.joinWith ['\n'] ["=== index ===", "* Wait - -> end", "=== end ===", "END"]

theorem short_links_divide_at_arrow_pier :
    ∃ graph node edge, compile pierStory = .ok graph ∧ (node, edge) ∈ graph.edges ∧
      Passage.ofEdge graph.namedPassages edge = .ok "[[Wait -->end]]".toList ∧
      ∃! division : Text × Text × Text,
        Passage.Divides "Wait -->end" division.1 division.2.1 division.2.2 := by
  have written : Passage.link "Wait -" "end" = "[[Wait -->end]]".toList := by decide +kernel
  have short : Passage.link "Wait -" "end" = '[' :: '[' :: "Wait -->end".toList ++ [']', ']'] := by
    decide +kernel
  obtain ⟨graph, node, edge, compiled, member, label, known, linked⟩ :=
    exists_first_link pierStory "Wait -" "end" (by decide) written (by decide +kernel)
  obtain ⟨target, named, _, divides⟩ := short_links_divide_at_arrow compiled member
  cases known.symm.trans named
  rw [label] at divides
  exact ⟨graph, node, edge, compiled, member, linked, (divides _ short).2.mpr (by decide)⟩

def scalesStory : Text :=
  Text.joinWith ['\n'] ["=== index ===", "* Less < -> end", "=== end ===", "END"]

theorem short_link_divides_twice_scales :
    ∃ graph node edge, compile scalesStory = .ok graph ∧ (node, edge) ∈ graph.edges ∧
      edge.label "end" = "Less <".toList ∧
      graph.namedPassages.find? edge.target = some "end".toList ∧
      Passage.ofEdge graph.namedPassages edge = .ok "[[Less <->end]]".toList ∧
      Passage.Divides "Less <->end" ['-', '>'] "Less <" "end" ∧
      Passage.Divides "Less <->end" ['<', '-'] "Less " ">end" := by
  have written : Passage.link "Less <" "end" = "[[Less <->end]]".toList := by decide +kernel
  obtain ⟨graph, node, edge, compiled, member, label, named, linked⟩ :=
    exists_first_link scalesStory "Less <" "end" (by decide) written (by decide +kernel)
  exact ⟨graph, node, edge, compiled, member, label, named, linked, ⟨by decide, by decide⟩,
    by decide, by decide⟩

/-- A link in the form of a macro is read back as its label and its target exactly if there is no
backslash in either of them and no quote in the target. -/
theorem macro_links_read_back {source : Text} {options : CompileOptions} {graph : Graph}
    (compiled : compile source options = .ok graph) {node : Node} {edge : Edge}
    (member : (node, edge) ∈ graph.edges) :
    ∃ target, graph.namedPassages.find? edge.target = some target ∧
      Passage.ofEdge graph.namedPassages edge =
        .ok (Passage.link (edge.label target) target) ∧
      ∀ rest, Passage.link (edge.label target) target = "<<link " ++ rest →
        (Passage.readArguments rest = some (edge.label target, target, ">><</link>>".toList) ↔
          '\\' ∉ edge.label target ∧ '"' ∉ target ∧ '\\' ∉ target) := by
  obtain ⟨target, named, linked⟩ := (Graph.presentable_of_compile compiled).exists_link member
  refine ⟨target, named, linked, ?_⟩
  intro rest marked
  rw [Passage.arguments_of_link marked]
  exact Passage.readArguments_iff

def parrotStory : Text :=
  Text.joinWith ['\n'] ["=== index ===", "* Say \"[hello]\" -> end", "=== end ===", "END"]

theorem macro_links_read_back_parrot :
    ∃ graph node edge, compile parrotStory = .ok graph ∧ (node, edge) ∈ graph.edges ∧
      Passage.ofEdge graph.namedPassages edge =
        .ok "<<link \"Say \\\"[hello]\\\"\" \"end\">><</link>>".toList ∧
      Passage.readArguments "\"Say \\\"[hello]\\\"\" \"end\">><</link>>" =
        some ("Say \"[hello]\"".toList, "end".toList, ">><</link>>".toList) := by
  have written : Passage.link "Say \"[hello]\"" "end" =
      "<<link \"Say \\\"[hello]\\\"\" \"end\">><</link>>".toList := by
    decide +kernel
  have marked : Passage.link "Say \"[hello]\"" "end" =
      "<<link " ++ "\"Say \\\"[hello]\\\"\" \"end\">><</link>>".toList := by
    decide +kernel
  obtain ⟨graph, node, edge, compiled, member, label, known, linked⟩ :=
    exists_first_link parrotStory "Say \"[hello]\"" "end" (by decide) written (by decide +kernel)
  obtain ⟨target, named, _, reads⟩ := macro_links_read_back compiled member
  cases known.symm.trans named
  rw [label] at reads
  exact ⟨graph, node, edge, compiled, member, linked, (reads _ marked).mpr (by decide)⟩

def driveStory : Text :=
  Text.joinWith ['\n'] ["=== index ===", "* Open [C:\\ -> end", "=== end ===", "END"]

theorem macro_link_unreadable_drive :
    ∃ graph node edge, compile driveStory = .ok graph ∧ (node, edge) ∈ graph.edges ∧
      edge.label "end" = "Open [C:\\".toList ∧
      graph.namedPassages.find? edge.target = some "end".toList ∧
      Passage.ofEdge graph.namedPassages edge =
        .ok "<<link \"Open [C:\\\" \"end\">><</link>>".toList ∧
      Passage.readArguments "\"Open [C:\\\" \"end\">><</link>>" = none := by
  have written : Passage.link "Open [C:\\" "end" =
      "<<link \"Open [C:\\\" \"end\">><</link>>".toList := by
    decide +kernel
  obtain ⟨graph, node, edge, compiled, member, label, named, linked⟩ :=
    exists_first_link driveStory "Open [C:\\" "end" (by decide) written (by decide +kernel)
  exact ⟨graph, node, edge, compiled, member, label, named, linked, by decide +kernel⟩

end Knotwork
