import Knotwork.Proofs.Exploration
import Knotwork.Proofs.Links

/-! How passages get their names. Nodes are named one after the other, and for each the candidates are
tried in turn, as long as it takes to find a free one. Main statement: this comes to an end, and then
every node has a name of its own that can stand in headers and links, so that a link leads to one
passage and there is one start. -/

namespace Knotwork

namespace Passage

theorem candidate_injective (base : Text) : Function.Injective (candidate base) := by
  intro first second same
  have longer : ∀ n, candidate base (n + 1) ≠ base := by
    intro n short
    have sizes := congrArg List.length short
    simp [candidate] at sizes
  cases first with
  | zero =>
      cases second with
      | zero => rfl
      | succ second => exact absurd same.symm (longer second)
  | succ first =>
      cases second with
      | zero => exact absurd same (longer first)
      | succ second =>
          have digits : Text.ofNat (first + 2) = Text.ofNat (second + 2) := by
            simpa [candidate] using same
          simpa using Text.ofNat_injective digits

theorem exists_free (used : List Text) (base : Text) :
    ∃ n < used.length + 1, candidate base n ∉ used := by
  by_contra none
  have taken : ∀ n < used.length + 1, candidate base n ∈ used := by
    intro n bound
    by_contra free
    exact none ⟨n, bound, free⟩
  have distinct : ((List.range (used.length + 1)).map (candidate base)).Nodup :=
    List.nodup_range.map (candidate_injective base)
  have within : (List.range (used.length + 1)).map (candidate base) ⊆ used := by
    intro name member
    obtain ⟨n, bound, rfl⟩ := List.mem_map.mp member
    exact taken n (List.mem_range.mp bound)
  -- So many candidates cannot all be in use.
  have bound := (distinct.subperm within).length_le
  rw [List.length_map, List.length_range] at bound
  omega

theorem freshName_eq (used : List Text) (base : Text) :
    ∃ n, freshName used base = candidate base n ∧ candidate base n ∉ used ∧
      ∀ m < n, candidate base m ∈ used := by
  unfold freshName
  cases found : (List.range (used.length + 1)).find? fun n => !used.contains (candidate base n) with
  | none =>
      obtain ⟨n, bound, free⟩ := exists_free used base
      have taken := List.find?_eq_none.mp found n (List.mem_range.mpr bound)
      simp [free] at taken
  | some n =>
      obtain ⟨free, _, before⟩ := List.find?_range_eq_some.mp found
      refine ⟨n, rfl, by simpa using free, ?_⟩
      intro m earlier
      simpa using before m earlier

def readHeadline (row : Text) : Text × List Text :=
  match Text.cut? [' ', '['] (row.drop 3) with
  | none => (row.drop 3, [])
  | some (name, marks) => (name, Text.splitOn [' '] (marks.takeWhile (· ≠ ']')))

theorem readHeadline_of_tags {name : Text} {node : Node} (plain : Plain name) {shown : List Text}
    (tagged : tags name node = shown) (filled : shown ≠ []) :
    readHeadline (headline name node) =
      (name, Text.splitOn [' '] ((Text.joinWith " " shown ++ [']']).takeWhile (· ≠ ']'))) := by
  have absent : ¬[' ', '['] <:+: name :=
    Text.not_infix_of_not_mem (by simp) (plain.not_mem (c := '[') (by decide))
  have row : (headline name node).drop 3 =
      name ++ [' ', '['] ++ (Text.joinWith " " shown ++ [']']) := by
    obtain ⟨tag, others, rfl⟩ := List.exists_cons_of_ne_nil filled
    simp [headline, tagged]
  rw [readHeadline, row, Text.cut?_pair (by decide) absent]

theorem readHeadline_headline {name : Text} (plain : Plain name) (node : Node) :
    readHeadline (headline name node) = (name, tags name node) := by
  by_cases starts : name = start
  · cases ends : node.isEnd with
    | true =>
        have tagged : tags name node = ["start".toList, "ending".toList] := by
          simp [tags, starts, ends]
        rw [readHeadline_of_tags plain tagged (by simp), tagged]
        rfl
    | false =>
        have tagged : tags name node = ["start".toList] := by simp [tags, starts, ends]
        rw [readHeadline_of_tags plain tagged (by simp), tagged]
        rfl
  · cases ends : node.isEnd with
    | true =>
        have tagged : tags name node = ["ending".toList] := by simp [tags, starts, ends]
        rw [readHeadline_of_tags plain tagged (by simp), tagged]
        rfl
    | false =>
        have bare : tags name node = [] := by simp [tags, starts, ends]
        have uncut : Text.cut? [' ', '['] name = none :=
          (Text.cut?_eq_none_iff (by simp)).mpr
            (Text.not_infix_of_not_mem (by simp) (plain.not_mem (c := '[') (by decide)))
        have row : (headline name node).drop 3 = name := by simp [headline, bare]
        rw [readHeadline, row, uncut, bare]

def shownName (lines : List Text) : Text := (readHeadline (lines.headD [])).1

def shownTags (lines : List Text) : List Text := (readHeadline (lines.headD [])).2

theorem mem_start_tags_iff {name : Text} {node : Node} :
    "start".toList ∈ tags name node ↔ name = start := by
  have other : "start".toList ≠ "ending".toList := by decide +kernel
  rw [tags, List.mem_append]
  constructor
  · rintro (marked | ending)
    · by_contra otherwise
      rw [if_neg otherwise] at marked
      cases marked
    · split at ending
      · exact absurd (List.mem_singleton.mp ending) other
      · cases ending
  · intro starts
    rw [if_pos starts]
    exact Or.inl List.mem_cons_self

theorem headD_of_ofNode {names : Table Text} {node : Node} {name : Text} {lines : List Text}
    (found : names.find? node.id = some name) (written : ofNode names node = .ok lines) :
    lines.headD [] = headline name node := by
  rw [ofNode, Table.get, found] at written
  change (node.edges.mapM (ofEdge names) >>= _) = _ at written
  cases linked : node.edges.mapM (ofEdge names) with
  | error missing =>
      rw [linked] at written
      cases written
  | ok links =>
      rw [linked] at written
      cases written
      rfl

theorem shown_of_ofNode {names : Table Text} {node : Node} {name : Text} {lines : List Text}
    (found : names.find? node.id = some name) (plain : Plain name)
    (written : ofNode names node = .ok lines) :
    shownName lines = name ∧ shownTags lines = tags name node := by
  rw [shownName, shownTags, headD_of_ofNode found written, readHeadline_headline plain]
  exact ⟨rfl, rfl⟩

end Passage

structure Naming where
  names : Table Text
  used : List Text
  waiting : List Node
  number : Nat := 0

namespace Naming

open Passage

inductive Turn : Naming → Naming → Prop
  | keep {names used node rest number} : names.contains node.id = true →
      Turn ⟨names, used, node :: rest, number⟩ ⟨names, used, rest, 0⟩
  | retry {names used node rest number} : names.contains node.id = false →
      candidate (baseName node.knot) number ∈ used →
      Turn ⟨names, used, node :: rest, number⟩ ⟨names, used, node :: rest, number + 1⟩
  | give {names used node rest number} : names.contains node.id = false →
      candidate (baseName node.knot) number ∉ used →
      Turn ⟨names, used, node :: rest, number⟩
        ⟨names.insert node.id (candidate (baseName node.knot) number),
          candidate (baseName node.knot) number :: used, rest, 0⟩

theorem Turn.rightUnique : Relator.RightUnique Turn := by
  intro naming one other first second
  cases first with
  | keep named =>
      cases second with
      | keep _ => rfl
      | retry unnamed _ => exact absurd named (by simp [unnamed])
      | give unnamed _ => exact absurd named (by simp [unnamed])
  | retry unnamed taken =>
      cases second with
      | keep named => exact absurd named (by simp [unnamed])
      | retry _ _ => rfl
      | give _ free => exact absurd taken free
  | give unnamed free =>
      cases second with
      | keep named => exact absurd named (by simp [unnamed])
      | retry _ taken => exact absurd taken free
      | give _ _ => rfl

theorem not_turn_of_done {naming next : Naming} (done : naming.waiting = []) :
    ¬naming.Turn next := by
  intro turn
  cases turn <;> cases done

theorem retries {names : Table Text} {used : List Text} {node : Node} (rest : List Node)
    (unnamed : names.contains node.id = false) (n : Nat)
    (taken : ∀ m < n, candidate (baseName node.knot) m ∈ used) :
    Relation.ReflTransGen Turn ⟨names, used, node :: rest, 0⟩ ⟨names, used, node :: rest, n⟩ := by
  induction n with
  | zero => exact .refl
  | succ n ih =>
      have before := ih fun m earlier => taken m (by omega)
      exact before.tail (.retry unnamed (taken n (by omega)))

theorem turns_nameNodes (names : Table Text) (used : List Text) (nodes : List Node) :
    ∃ last, Relation.ReflTransGen Turn ⟨names, used, nodes, 0⟩ last ∧ last.waiting = [] ∧
      last.names = nameNodes names used nodes := by
  induction nodes generalizing names used with
  | nil => exact ⟨_, .refl, rfl, rfl⟩
  | cons node rest ih =>
      rw [nameNodes]
      cases named : names.contains node.id with
      | true =>
          obtain ⟨last, turns, done, same⟩ := ih names used
          exact ⟨last, .head (.keep named) turns, done, same⟩
      | false =>
          obtain ⟨n, fresh, free, taken⟩ := freshName_eq used (baseName node.knot)
          obtain ⟨last, turns, done, same⟩ :=
            ih (names.insert node.id (candidate (baseName node.knot) n))
              (candidate (baseName node.knot) n :: used)
          refine ⟨last, ?_, done, ?_⟩
          · exact (retries rest named n taken).trans (.head (.give named free) turns)
          · simp only [fresh]
            exact same

theorem acc_of_turns {naming last : Naming} (turns : Relation.ReflTransGen Turn naming last)
    (done : last.waiting = []) : Acc (fun later earlier => Turn earlier later) naming := by
  induction turns using Relation.ReflTransGen.head_induction_on with
  | refl => exact .intro _ fun next turn => absurd turn (not_turn_of_done done)
  | head turn _ ih =>
      refine .intro _ fun next other => ?_
      -- Every turn is determined, so a run that gets to an end is the only one.
      rw [Turn.rightUnique other turn]
      exact ih

structure Sound (naming : Naming) : Prop where
  reserved : ∀ name ∈ Passage.reserved, name ∈ naming.used
  used : ∀ key name, naming.names.find? key = some name → name ∈ naming.used
  allowed : ∀ key name, naming.names.find? key = some name → name ∉ Passage.reserved
  apart : ∀ first second name, naming.names.find? first = some name →
    naming.names.find? second = some name → first = second

theorem Sound.turn {naming next : Naming} (sound : naming.Sound) (turn : naming.Turn next) :
    next.Sound := by
  cases turn with
  | keep _ => exact ⟨sound.reserved, sound.used, sound.allowed, sound.apart⟩
  | retry _ _ => exact ⟨sound.reserved, sound.used, sound.allowed, sound.apart⟩
  | @give names used node rest number _ free =>
      have given : ∀ {key name}, (names.insert node.id
          (candidate (baseName node.knot) number)).find? key = some name →
          (key = node.id ∧ name = candidate (baseName node.knot) number) ∨
            (names.find? key = some name ∧ name ≠ candidate (baseName node.knot) number) := by
        intro key name found
        rw [Table.find?_insert] at found
        split at found
        · rename_i here
          exact Or.inl ⟨here, (Option.some.inj found).symm⟩
        · refine Or.inr ⟨found, ?_⟩
          rintro rfl
          exact free (sound.used _ _ found)
      constructor
      · intro name member
        exact List.mem_cons_of_mem _ (sound.reserved name member)
      · intro key name found
        rcases given found with ⟨_, rfl⟩ | ⟨old, _⟩
        · exact List.mem_cons_self
        · exact List.mem_cons_of_mem _ (sound.used key name old)
      · intro key name found
        rcases given found with ⟨_, rfl⟩ | ⟨old, _⟩
        · exact fun special => free (sound.reserved _ special)
        · exact sound.allowed key name old
      · intro first second name firstFound secondFound
        rcases given firstFound with ⟨here, new⟩ | ⟨old, other⟩
        · rcases given secondFound with ⟨there, _⟩ | ⟨_, other⟩
          · rw [here, there]
          · exact absurd new other
        · rcases given secondFound with ⟨_, new⟩ | ⟨also, _⟩
          · exact absurd new other
          · exact sound.apart first second name old also

theorem Sound.turns {naming last : Naming} (sound : naming.Sound)
    (turns : Relation.ReflTransGen Turn naming last) : last.Sound := by
  induction turns with
  | refl => exact sound
  | tail _ turn ih => exact ih.turn turn

def Knows (naming : Naming) (key : Text) : Prop :=
  key ∈ naming.names.keys ∨ key ∈ naming.waiting.map Node.id

theorem knows_iff_of_turn {naming next : Naming} (turn : naming.Turn next) (key : Text) :
    next.Knows key ↔ naming.Knows key := by
  cases turn with
  | @keep names _ node rest _ named =>
      have known : node.id ∈ names.keys := (Table.mem_keys_iff names node.id).mpr named
      simp only [Knows, List.map_cons, List.mem_cons]
      constructor
      · rintro (old | later)
        · exact Or.inl old
        · exact Or.inr (Or.inr later)
      · rintro (old | rfl | later)
        · exact Or.inl old
        · exact Or.inl known
        · exact Or.inr later
  | retry _ _ => rfl
  | @give names _ node rest number _ _ =>
      have entered : key ∈ (names.insert node.id
          (candidate (baseName node.knot) number)).keys ↔ key = node.id ∨ key ∈ names.keys :=
        Table.mem_keys_enter node.id key _ names.entries
      simp only [Knows, List.map_cons, List.mem_cons, entered]
      constructor
      · rintro ((here | old) | later)
        · exact Or.inr (Or.inl here)
        · exact Or.inl old
        · exact Or.inr (Or.inr later)
      · rintro (old | here | later)
        · exact Or.inl (Or.inr old)
        · exact Or.inl (Or.inl here)
        · exact Or.inr later

theorem knows_iff_of_turns {naming last : Naming}
    (turns : Relation.ReflTransGen Turn naming last) (key : Text) :
    last.Knows key ↔ naming.Knows key := by
  induction turns with
  | refl => rfl
  | tail _ turn ih => rw [knows_iff_of_turn turn, ih]

end Naming

namespace Graph

def naming (graph : Graph) : Naming where
  names := Table.empty.insert graph.entry Passage.start
  used := Passage.start :: Passage.reserved
  waiting := graph.nodes.values

theorem sound_naming (graph : Graph) : graph.naming.Sound := by
  have given : ∀ {key name}, graph.naming.names.find? key = some name →
      key = graph.entry ∧ name = Passage.start := by
    intro key name found
    rw [naming, Table.find?_insert] at found
    split at found
    · rename_i here
      exact ⟨here, (Option.some.inj found).symm⟩
    · cases found
  constructor
  · intro name member
    exact List.mem_cons_of_mem _ member
  · intro key name found
    rw [(given found).2]
    exact List.mem_cons_self
  · intro key name found
    rw [(given found).2]
    decide
  · intro first second name firstFound secondFound
    rw [(given firstFound).1, (given secondFound).1]

theorem exists_last_naming (graph : Graph) :
    ∃ last, Relation.ReflTransGen Naming.Turn graph.naming last ∧ last.waiting = [] ∧
      last.names = graph.namedPassages :=
  Naming.turns_nameNodes _ _ _

theorem mem_keys_namedPassages {graph : Graph}
    (keyed : graph.nodes.values.map Node.id = graph.nodes.keys)
    (entered : graph.entry ∈ graph.nodes.keys) (key : Text) :
    key ∈ graph.namedPassages.keys ↔ key ∈ graph.nodes.keys := by
  obtain ⟨last, turns, done, same⟩ := graph.exists_last_naming
  have known := Naming.knows_iff_of_turns turns key
  rw [Naming.Knows, Naming.Knows, done, same, naming, keyed] at known
  rw [← or_iff_left_of_imp (a := key ∈ graph.namedPassages.keys)
    (fun none : key ∈ List.map Node.id [] => by cases none), known]
  have started : key ∈ (Table.empty.insert graph.entry Passage.start).keys ↔ key = graph.entry := by
    simp [Table.keys, Table.insert, Table.empty, Table.enter]
  rw [started, or_iff_right_of_imp]
  rintro rfl
  exact entered

theorem sound_namedPassages (graph : Graph) :
    ∃ used, Naming.Sound ⟨graph.namedPassages, used, [], 0⟩ := by
  obtain ⟨last, turns, done, same⟩ := graph.exists_last_naming
  have sound := graph.sound_naming.turns turns
  refine ⟨last.used, ?_⟩
  rw [← same]
  exact ⟨sound.reserved, sound.used, sound.allowed, sound.apart⟩

theorem find?_of_mem_values {graph : Graph}
    (keyed : graph.nodes.values.map Node.id = graph.nodes.keys) {node : Node}
    (member : node ∈ graph.nodes.values) : graph.nodes.find? node.id = some node := by
  obtain ⟨key, found⟩ := mem_values.mp member
  rw [Table.values, Table.keys, List.map_map, List.map_inj_left] at keyed
  have same := keyed (key, node) ((Table.mem_entries_iff _ _ _).mpr found)
  have id : node.id = key := same
  rw [id, found]

theorem exists_mem_values {graph : Graph}
    (keyed : graph.nodes.values.map Node.id = graph.nodes.keys) {key : Text}
    (member : key ∈ graph.nodes.keys) : ∃ node ∈ graph.nodes.values, node.id = key := by
  rw [← keyed] at member
  exact List.mem_map.mp member

theorem shownName_eq_iff {graph : Graph}
    (keyed : graph.nodes.values.map Node.id = graph.nodes.keys) {target : Node}
    (targetMember : target ∈ graph.nodes.values) {name : Text}
    (named : graph.namedPassages.find? target.id = some name) {node : Node}
    (member : node ∈ graph.nodes.values) {lines : List Text}
    (written : Passage.ofNode graph.namedPassages node = .ok lines) :
    Passage.shownName lines = name ↔ node = target := by
  obtain ⟨used, sound⟩ := graph.sound_namedPassages
  obtain ⟨other, found⟩ : ∃ other, graph.namedPassages.find? node.id = some other :=
    Passage.exists_name member _ _
  rw [(Passage.shown_of_ofNode found (graph.plain_namedPassages _ _ found) written).1]
  constructor
  · rintro rfl
    have same := sound.apart _ _ _ found named
    have present := find?_of_mem_values keyed member
    rw [same, find?_of_mem_values keyed targetMember] at present
    exact (Option.some.inj present).symm
  · rintro rfl
    rw [named] at found
    exact (Option.some.inj found).symm

theorem find?_entry_namedPassages (graph : Graph) :
    graph.namedPassages.find? graph.entry = some Passage.start :=
  Passage.find?_nameNodes_of_some (by rw [Table.find?_insert, if_pos rfl]) _ _

theorem start_mem_shownTags_iff {graph : Graph}
    (keyed : graph.nodes.values.map Node.id = graph.nodes.keys) {root : Node}
    (rootMember : root ∈ graph.nodes.values) (rootId : root.id = graph.entry) {node : Node}
    (member : node ∈ graph.nodes.values) {lines : List Text}
    (written : Passage.ofNode graph.namedPassages node = .ok lines) :
    "start".toList ∈ Passage.shownTags lines ↔ node = root := by
  have named : graph.namedPassages.find? root.id = some Passage.start := by
    rw [rootId, graph.find?_entry_namedPassages]
  obtain ⟨name, found⟩ : ∃ name, graph.namedPassages.find? node.id = some name :=
    Passage.exists_name member _ _
  obtain ⟨shown, tagged⟩ :=
    Passage.shown_of_ofNode found (graph.plain_namedPassages _ _ found) written
  rw [← shownName_eq_iff keyed rootMember named member written, tagged, shown,
    Passage.mem_start_tags_iff]

theorem exists_shown_of_compile {graph : Graph} {source : Text} {options : CompileOptions}
    (compiled : compile source options = .ok graph) {passages : List (List Text)}
    (written : List.Forall₂ (Passage.Written graph.namedPassages) graph.nodes.values passages) :
    ∃ shown, List.Forall₂ (Passage.Shows graph.namedPassages) graph.nodes.values shown ∧
      (graph.joinPassages passages).rows =
        (graph.titlePassage :: graph.dataPassage :: shown).flatten ∧
      List.Forall₂ (fun lines rows => Passage.shownName rows = Passage.shownName lines ∧
        Passage.shownTags rows = Passage.shownTags lines) passages shown := by
  have presentable := presentable_of_compile compiled
  refine ⟨_, presentable.shows_rowsOf written, graph.rows_joinPassages passages, ?_⟩
  rw [List.forall₂_map_right_iff, List.forall₂_same]
  intro lines member
  obtain ⟨node, _, holds⟩ := exists_of_forall₂ written member
  rw [Passage.shownName, Passage.shownName, Passage.shownTags, Passage.shownTags,
    holds.headD_rowsOf presentable.namedPassages_single]
  exact ⟨rfl, rfl⟩

end Graph

/-- In a graph whose nodes stand under their identities, the entry among them, the naming of passages
comes to an end, whichever names the knots have. It names the nodes and nothing else, the entry as the
start and no two nodes alike, by names that players leave free and that headers and links can hold. So
if all edges lead to nodes, one passage is tagged as the start, and a link leads to one passage. In the
source of a story that was compiled, the rows of a passage show the same name, tags and links. -/
theorem passages_have_names_of_their_own {graph : Graph}
    (keyed : graph.nodes.values.map Node.id = graph.nodes.keys)
    (entered : graph.entry ∈ graph.nodes.keys) :
    (∀ moments : Nat → Naming, moments 0 = graph.naming →
      ¬∀ number, (moments number).Turn (moments (number + 1))) ∧
    (∀ last, Relation.ReflTransGen Naming.Turn graph.naming last → (∀ next, ¬last.Turn next) →
      last.waiting = [] ∧ last.names = graph.namedPassages) ∧
    (∀ key, key ∈ graph.namedPassages.keys ↔ key ∈ graph.nodes.keys) ∧
    graph.namedPassages.find? graph.entry = some Passage.start ∧
    (∀ first second name, graph.namedPassages.find? first = some name →
      graph.namedPassages.find? second = some name → first = second) ∧
    (∀ key name, graph.namedPassages.find? key = some name →
      name ∉ Passage.reserved ∧ ∀ c ∈ ['[', ']', '{', '}', '|', '<', '>'], c ∉ name) ∧
    ((∀ edge ∈ graph.edges, edge.2.target ∈ graph.nodes.keys) →
      ∃ passages, graph.renderPassages = .ok (graph.joinPassages passages) ∧
        List.Forall₂ (fun node lines => Passage.ofNode graph.namedPassages node = .ok lines)
          graph.nodes.values passages ∧
        (∃ root ∈ graph.nodes.values, root.id = graph.entry ∧
          ∀ node ∈ graph.nodes.values, ∀ lines,
            Passage.ofNode graph.namedPassages node = .ok lines →
              ("start".toList ∈ Passage.shownTags lines ↔ node = root)) ∧
        (∀ edge ∈ graph.edges, ∃ target ∈ graph.nodes.values, target.id = edge.2.target ∧
          ∃ name, Passage.ofEdge graph.namedPassages edge.2 =
              .ok (Passage.link (edge.2.label name) name) ∧
            ∀ node ∈ graph.nodes.values, ∀ lines,
              Passage.ofNode graph.namedPassages node = .ok lines →
                (Passage.shownName lines = name ↔ node = target)) ∧
        ∀ source options, compile source options = .ok graph →
          ∃ shown, List.Forall₂ (Passage.Shows graph.namedPassages) graph.nodes.values shown ∧
            (graph.joinPassages passages).rows =
              (graph.titlePassage :: graph.dataPassage :: shown).flatten ∧
            List.Forall₂ (fun lines rows => Passage.shownName rows = Passage.shownName lines ∧
              Passage.shownTags rows = Passage.shownTags lines) passages shown) := by
  obtain ⟨_, turns, done, names⟩ := graph.exists_last_naming
  obtain ⟨used, sound⟩ := graph.sound_namedPassages
  refine ⟨?_, ?_, Graph.mem_keys_namedPassages keyed entered, graph.find?_entry_namedPassages,
    sound.apart, ?_, ?_⟩
  · intro moments begins endless
    have accessible := Naming.acc_of_turns turns done
    rw [acc_iff_isEmpty_descending_chain] at accessible
    exact accessible.false ⟨moments, begins, endless⟩
  · intro last others stopped
    have same := eq_of_stopped Naming.Turn.rightUnique others turns stopped
      fun _ => Naming.not_turn_of_done done
    rw [same]
    exact ⟨done, names⟩
  · intro key name found
    refine ⟨sound.allowed key name found, ?_⟩
    intro c special
    have plain := graph.plain_namedPassages key name found
    exact plain.not_mem (by simpa [Passage.isSpecial] using special)
  · intro targets
    have closed : ∀ node ∈ graph.nodes.values, ∀ edge ∈ node.edges,
        ∃ target ∈ graph.nodes.values, target.id = edge.target := by
      intro node member edge present
      have inside : (node, edge) ∈ graph.edges :=
        Graph.mem_edges.mpr ⟨Graph.mem_values.mp member, present⟩
      exact Graph.exists_mem_values keyed (targets _ inside)
    obtain ⟨passages, rendered, written⟩ := Graph.exists_passages closed
    refine ⟨passages, rendered, written.imp fun _ _ both => both.1, ?_, ?_, ?_⟩
    · obtain ⟨root, rootMember, rootId⟩ := Graph.exists_mem_values keyed entered
      refine ⟨root, rootMember, rootId, ?_⟩
      intro node member lines made
      exact Graph.start_mem_shownTags_iff keyed rootMember rootId member made
    · rintro ⟨node, edge⟩ member
      obtain ⟨target, targetMember, same⟩ := Graph.exists_mem_values keyed (targets _ member)
      obtain ⟨name, named⟩ : ∃ name, graph.namedPassages.find? target.id = some name :=
        Passage.exists_name targetMember _ _
      refine ⟨target, targetMember, same, name, ?_, ?_⟩
      · rw [Passage.ofEdge, ← same, Table.get, named]
        rfl
      · intro other otherMember lines made
        exact Graph.shownName_eq_iff keyed targetMember named otherMember made
    · intro source options compiled
      exact Graph.exists_shown_of_compile compiled (written.imp fun _ _ both => both.2)

def bazaarGraph : Graph where
  nodes := Table.ofPairs
    [("gate|", { id := "gate|", knot := "gate",
                 edges := [{ text := "In", target := "Start|" }, { text := [], target := "a]b|" }] }),
     ("Start|", { id := "Start|", knot := "Start" }),
     ("StoryData|", { id := "StoryData|", knot := "StoryData", isEnd := true }),
     ("a[b|", { id := "a[b|", knot := "a[b" }),
     ("a]b|", { id := "a]b|", knot := "a]b" }),
     ("a_b (2)|", { id := "a_b (2)|", knot := "a_b (2)" })]
  entry := "gate|"

theorem passages_have_names_of_their_own_bazaar :
    bazaarGraph.nodes.values.map Node.id = bazaarGraph.nodes.keys ∧
    bazaarGraph.entry ∈ bazaarGraph.nodes.keys ∧
    (∀ edge ∈ bazaarGraph.edges, edge.2.target ∈ bazaarGraph.nodes.keys) ∧
    bazaarGraph.namedPassages.values =
      ["Start".toList, "Start (2)".toList, "StoryData (2)".toList, "a_b".toList, "a_b (2)".toList,
        "a_b (2) (2)".toList] ∧
    (∀ first second name, bazaarGraph.namedPassages.find? first = some name →
      bazaarGraph.namedPassages.find? second = some name → first = second) ∧
    ∃ passages, bazaarGraph.renderPassages = .ok (bazaarGraph.joinPassages passages) := by
  have keyed : bazaarGraph.nodes.values.map Node.id = bazaarGraph.nodes.keys := by decide +kernel
  have entered : bazaarGraph.entry ∈ bazaarGraph.nodes.keys := by decide +kernel
  have targets : ∀ edge ∈ bazaarGraph.edges, edge.2.target ∈ bazaarGraph.nodes.keys := by
    decide +kernel
  obtain ⟨_, _, _, _, apart, _, links⟩ := passages_have_names_of_their_own keyed entered
  obtain ⟨passages, rendered, _⟩ := links targets
  exact ⟨keyed, entered, targets, by decide +kernel, apart, passages, rendered⟩

end Knotwork
