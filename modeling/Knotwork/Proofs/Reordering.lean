import Knotwork.Proofs.Document
import Knotwork.Proofs.Exploration

/-! Things that a script lists in an order of no meaning: its knots, the variables of a discipline and
its metadata. Main statement: whatever that order is, the graph has the same document, or else the
same error is reported. The two explorations are compared node by node, so it does not matter that
identities may collide. -/

namespace Knotwork

structure Declarations.Reordered (first second : Declarations) : Prop where
  globals : first.globals.Perm second.globals
  flags : first.flags.Perm second.flags
  locals : first.locals.Perm second.locals

/-- Scripts with the same metadata, declarations and knots, listed in whatever order. -/
structure Script.Reordered (first second : Script) : Prop where
  metadata : first.metadata.entries.Perm second.metadata.entries
  declarations : first.declarations.Reordered second.declarations
  knots : first.knots.Perm second.knots

namespace Declarations.Reordered

variable {first second : Declarations} (reordered : first.Reordered second)

include reordered

theorem mem_names_iff (name : Text) : name ∈ first.names ↔ name ∈ second.names := by
  rw [mem_names, mem_names, reordered.globals.mem_iff, reordered.flags.mem_iff,
    reordered.locals.mem_iff]

theorem mem_locals_iff (name : Text) :
    name ∈ first.namesUnder .sceneLocal ↔ name ∈ second.namesUnder .sceneLocal := by
  rw [mem_locals, mem_locals, reordered.flags.mem_iff, reordered.locals.mem_iff]

theorem isFlag_eq (name : Text) : first.isFlag name = second.isFlag name := by
  rw [Bool.eq_iff_iff, isFlag_iff, isFlag_iff, reordered.flags.mem_iff]

theorem names_perm : first.names.Perm second.names :=
  (List.perm_ext_iff_of_nodup first.nodup_names second.nodup_names).mpr reordered.mem_names_iff

theorem agree_initial : (State.initial first).Agree (State.initial second) := by
  intro name
  rw [State.find?_initial, State.find?_initial]
  simp only [reordered.mem_names_iff]

theorem agree_apply {one other : State} (agree : one.Agree other) (changes : List Change) :
    (one.apply first changes).Agree (other.apply second changes) := by
  have same : State.applyChange first = State.applyChange second := by
    funext state change
    simp only [State.applyChange, reordered.isFlag_eq]
  have applied : one.apply first changes = one.apply second changes := by
    rw [State.apply, State.apply, same]
  rw [applied]
  exact State.agree_apply second agree changes

end Declarations.Reordered

namespace Script

namespace Reordered

variable {first second : Script} (reordered : first.Reordered second)

include reordered

theorem knot?_eq (name : Text) : first.knot? name = second.knot? name := by
  refine Option.ext fun knot => ?_
  rw [knot?_eq_some_iff, knot?_eq_some_iff, reordered.knots.mem_iff]

theorem agree_arrive (fromScene toScene : Text) {one other : State} (agree : one.Agree other) :
    (first.arrive fromScene toScene one).Agree (second.arrive fromScene toScene other) := by
  intro name
  rw [find?_arrive, find?_arrive, agree name]
  simp only [reordered.declarations.mem_locals_iff]

theorem undeclared_perm : first.undeclared.Perm second.undeclared := by
  refine (List.perm_ext_iff_of_nodup first.nodup_undeclared second.nodup_undeclared).mpr ?_
  intro name
  have assigned : name ∈ first.assigned ↔ name ∈ second.assigned :=
    (reordered.knots.flatMap_right _).mem_iff
  simp only [undeclared, List.mem_filter, mem_firstOfEach, assigned, List.contains_eq_mem,
    reordered.declarations.mem_names_iff]

theorem capacity_eq : first.capacity = second.capacity := by
  rw [Script.capacity_eq, Script.capacity_eq, reordered.knots.length_eq,
    reordered.declarations.names_perm.length_eq, reordered.undeclared_perm.length_eq]

end Reordered

end Script

structure Node.Matches (one other : Node) : Prop where
  state : one.state.Agree other.state
  rest : { one with state := other.state } = other

inductive StoryError.Matches : StoryError → StoryError → Prop
  | script (fault) : Matches (.script fault) (.script fault)
  | missingEntry (entry names others) : Matches (.missingEntry entry names) (.missingEntry entry others)
  | unknownKnot (target source choice names others) :
      Matches (.unknownKnot target source choice names) (.unknownKnot target source choice others)

inductive Move.Matches : Move → Move → Prop
  | dropped (text) : Matches (.dropped text) (.dropped text)
  | taken (edge) {one other} : one.Matches other → Matches (.taken edge one) (.taken edge other)
  | failed {error fault} : error.Matches fault → Matches (.failed error) (.failed fault)

structure Exploration.Matches (one other : Exploration) : Prop where
  visited : List.Forall₂ Node.Matches one.visited other.visited
  error : Option.Rel StoryError.Matches one.error? other.error?

theorem Node.Matches.id_eq {one other : Node} (same : one.Matches other) : one.id = other.id := by
  have ids := congrArg Node.id same.rest
  exact ids

theorem Node.Matches.knot_eq {one other : Node} (same : one.Matches other) :
    one.knot = other.knot := by
  have knots := congrArg Node.knot same.rest
  exact knots

theorem Node.Matches.ids_eq {ones others : List Node}
    (same : List.Forall₂ Node.Matches ones others) : ones.map Node.id = others.map Node.id := by
  induction same with
  | nil => rfl
  | cons head _ ih => rw [List.map_cons, List.map_cons, head.id_eq, ih]

namespace Knot

theorem firstContent_congr {one other : State} (agree : one.Agree other) (blocks : List Block) :
    firstContent one blocks = firstContent other blocks := by
  induction blocks with
  | nil => rfl
  | cons block rest ih => simp only [firstContent, Condition.test_congr _ agree, ih]

theorem enter_matches (knot : Knot) {one other : State} (agree : one.Agree other)
    (stitch : Option Text) :
    (∃ fault, knot.enter one stitch = .error fault ∧ knot.enter other stitch = .error fault) ∨
      ∃ node twin, knot.enter one stitch = .ok node ∧ knot.enter other stitch = .ok twin ∧
        node.Matches twin := by
  have same : knot.content one = knot.content other := firstContent_congr agree knot.body
  cases shown : knot.content other with
  | error fault =>
      refine Or.inl ⟨fault, ?_, ?_⟩
      · rw [enter, same, shown]
        rfl
      · rw [enter, shown]
        rfl
  | ok content =>
      refine Or.inr ⟨_, _, enter_eq_ok.mpr ⟨content, same.trans shown, rfl⟩,
        enter_eq_ok.mpr ⟨content, shown, rfl⟩, agree, ?_⟩
      rw [Identity.encode_congr knot.name agree]

end Knot

namespace Move.Matches

theorem edges_eq {moves others : List Move} (same : List.Forall₂ Matches moves others) :
    moves.filterMap edge? = others.filterMap edge? := by
  induction same with
  | nil => rfl
  | cons head _ ih =>
      cases head with
      | dropped _ => exact ih
      | taken edge _ => exact congrArg (List.cons edge) ih
      | failed _ => exact ih

theorem nodes {moves others : List Move} (same : List.Forall₂ Matches moves others) :
    List.Forall₂ Node.Matches (moves.filterMap node?) (others.filterMap node?) := by
  refine List.rel_filterMap ?_ same
  intro move other head
  cases head with
  | dropped _ => exact .none
  | taken _ node => exact .some node
  | failed _ => exact .none

theorem error {moves others : List Move} (same : List.Forall₂ Matches moves others) :
    Option.Rel StoryError.Matches (moves.findSome? error?) (others.findSome? error?) := by
  induction same with
  | nil => exact .none
  | cons head _ ih =>
      cases head with
      | dropped _ => exact ih
      | taken _ _ => exact ih
      | failed error => exact .some error

end Move.Matches

namespace Script

theorem discover_matches (known : List Text) {nodes others : List Node}
    (same : List.Forall₂ Node.Matches nodes others) :
    List.Forall₂ Node.Matches (discover known nodes) (discover known others) := by
  induction same generalizing known with
  | nil => exact .nil
  | cons head _ ih =>
      simp only [discover, head.id_eq]
      split
      · exact ih known
      · exact .cons head (ih _)

namespace Reordered

variable {first second : Script} (reordered : first.Reordered second)

include reordered

theorem move?_matches (knot : Knot) {one other : State} (agree : one.Agree other)
    (choice : Choice) :
    Option.Rel Move.Matches (first.move? knot one choice) (second.move? knot other choice) := by
  unfold move?
  rw [Condition.test_congr choice.condition agree]
  cases Condition.test choice.condition other with
  | error fault => exact .some (.failed (.script fault))
  | ok holds =>
      cases holds with
      | false => exact .none
      | true =>
          cases choice.destination? knot.name with
          | none => exact .some (.dropped _)
          | some name =>
              simp only [reordered.knot?_eq name]
              cases second.knot? name with
              | none => exact .some (.failed (.unknownKnot ..))
              | some target =>
                  have arrived := reordered.agree_arrive knot.scene target.scene
                    (reordered.declarations.agree_apply agree choice.changes)
                  rcases target.enter_matches arrived choice.stitch with
                    ⟨fault, failed, twinFailed⟩ | ⟨node, twin, entered, twinEntered, same⟩
                  · simp only [failed, twinFailed]
                    exact .some (.failed (.script fault))
                  · simp only [entered, twinEntered, same.id_eq]
                    exact .some (.taken _ same)

theorem moves_match {node twin : Node} (same : node.Matches twin) :
    List.Forall₂ Move.Matches (first.moves node) (second.moves twin) := by
  unfold moves
  rw [same.knot_eq, reordered.knot?_eq]
  cases second.knot? twin.knot with
  | none => exact .nil
  | some knot =>
      refine List.rel_filterMap (R := Eq) ?_ (List.forall₂_refl knot.choices)
      rintro choice _ rfl
      exact reordered.move?_matches knot same.state choice

theorem visit_matches (bound : Nat) {visited twins waiting others : List Node}
    (before : List.Forall₂ Node.Matches visited twins)
    (ahead : List.Forall₂ Node.Matches waiting others) :
    (first.visit bound visited waiting).Matches (second.visit bound twins others) := by
  induction bound generalizing visited twins waiting others with
  | zero => exact ⟨before, .none⟩
  | succ bound ih =>
      cases ahead with
      | nil => exact ⟨before, .none⟩
      | @cons node twin waiting others head tail =>
          have moves := reordered.moves_match head
          have errors := Move.Matches.error moves
          simp only [visit]
          generalize (first.moves node).findSome? Move.error? = error? at errors
          generalize (second.moves twin).findSome? Move.error? = fault? at errors
          cases errors with
          | some error =>
              exact ⟨List.rel_append before (.cons head .nil), .some error⟩
          | none =>
              have edges := Move.Matches.edges_eq moves
              have followed : Node.Matches
                  { node with edges := (first.moves node).filterMap Move.edge? }
                  { twin with edges := (second.moves twin).filterMap Move.edge? } := by
                refine ⟨head.state, ?_⟩
                rw [edges, ← head.rest]
              -- Both searches know the same identities, so they discover the same nodes.
              have visited := List.rel_append before (List.Forall₂.cons followed .nil)
              have known := Node.Matches.ids_eq (List.rel_append visited tail)
              simp only [known]
              exact ih visited
                (List.rel_append tail (discover_matches _ (Move.Matches.nodes moves)))

theorem explore_matches (entry : Text) : (first.explore entry).Matches (second.explore entry) := by
  unfold explore
  rw [reordered.knot?_eq entry]
  cases second.knot? entry with
  | none => exact ⟨.nil, .some (.missingEntry ..)⟩
  | some knot =>
      rcases knot.enter_matches reordered.declarations.agree_initial none with
        ⟨fault, failed, twinFailed⟩ | ⟨root, twin, entered, twinEntered, same⟩
      · simp only [failed, twinFailed]
        exact ⟨.nil, .some (.script fault)⟩
      · simp only [entered, twinEntered, reordered.capacity_eq]
        exact reordered.visit_matches _ .nil (.cons same .nil)

end Reordered

end Script

theorem Node.Matches.document_eq {one other : Node} (same : one.Matches other) :
    one.document = other.document := by
  rw [← same.rest]
  simp only [Node.document, (State.document_eq_iff _ _).mpr same.state]

theorem Node.Matches.documents_eq {ones others : List Node}
    (same : List.Forall₂ Node.Matches ones others) :
    ones.map (fun node => (node.id, node.document)) =
      others.map fun node => (node.id, node.document) := by
  induction same with
  | nil => rfl
  | cons head _ ih => rw [List.map_cons, List.map_cons, head.id_eq, head.document_eq, ih]

theorem Graph.renderDocument_congr {one other : Graph}
    (metadata : one.metadata.Agree other.metadata)
    (nodes : one.nodes.entries.map (fun entry => (entry.1, entry.2.document)) =
      other.nodes.entries.map fun entry => (entry.1, entry.2.document)) :
    one.renderDocument = other.renderDocument := by
  have sorted : one.nodes.sorted.map (fun entry => (entry.1, entry.2.document)) =
      other.nodes.sorted.map fun entry => (entry.1, entry.2.document) := by
    rw [Table.map_sorted one.nodes, Table.map_sorted other.nodes, nodes]
    · exact fun _ => rfl
    · exact fun _ => rfl
  rw [renderDocument, renderDocument, document, document,
    (Table.sorted_eq_iff one.metadata other.metadata).mpr metadata, sorted]

inductive StoryError.Kind where
  | script (grammar : Grammar)
  | missingEntry
  | unknownKnot
  | structural
  | corrupted
deriving DecidableEq

def StoryError.kind : StoryError → StoryError.Kind
  | .script fault => .script fault.grammar
  | .missingEntry .. => .missingEntry
  | .unknownKnot .. => .unknownKnot
  | .structural _ => .structural
  | .corrupted _ => .corrupted

/-- The order in which a script lists its knots, the variables of a discipline and its metadata does
not show: a graph can be built in either case or in neither, the documents are the same text, and
the errors are of one kind with the same message. -/
theorem document_ignores_listing_order {first second : Script}
    (reordered : first.Reordered second) (entry : Text) :
    ((∃ graph, first.graph entry = .ok graph) ↔ ∃ graph, second.graph entry = .ok graph) ∧
    (∀ one other, first.graph entry = .ok one → second.graph entry = .ok other →
      one.renderDocument = other.renderDocument) ∧
    ∀ error fault, first.graph entry = .error error → second.graph entry = .error fault →
      error.kind = fault.kind ∧ error.message = fault.message := by
  have same := reordered.explore_matches entry
  refine ⟨?_, ?_, ?_⟩
  · have errors := same.error
    unfold Script.graph Exploration.graph
    generalize (first.explore entry).error? = error? at errors
    generalize (second.explore entry).error? = fault? at errors
    cases errors with
    | none => simp
    | some _ => simp
  · intro one other built twinBuilt
    obtain ⟨finished, rfl⟩ := Script.graph_eq_ok built
    obtain ⟨twinFinished, rfl⟩ := Script.graph_eq_ok twinBuilt
    have entries := (Frontier.of_searching (Script.searching_explore finished)).entries_eq
    have twinEntries := (Frontier.of_searching (Script.searching_explore twinFinished)).entries_eq
    apply Graph.renderDocument_congr
    · exact Table.agree_of_perm reordered.metadata
    · rw [entries, twinEntries, List.map_map, List.map_map]
      exact Node.Matches.documents_eq same.visited
  · intro error fault failed twinFailed
    have errors := same.error
    rw [Script.graph_eq_error_iff.mp failed, Script.graph_eq_error_iff.mp twinFailed] at errors
    cases errors with
    | some alike =>
        cases alike with
        | script _ => exact ⟨rfl, rfl⟩
        | missingEntry _ _ _ => exact ⟨rfl, rfl⟩
        | unknownKnot _ _ _ _ _ => exact ⟨rfl, rfl⟩

namespace Ferry

def pier : Knot where
  name := "pier"
  scene := "shore"
  choices := [{ text := "Board", changes := [⟨"paid", true⟩], target := some "deck" }]

def deck : Knot where
  name := "deck"
  scene := "river"
  choices :=
    [{ text := "Land", target := some "pier" },
     { text := "Swim", condition := "wet == true", target := some "deep" }]

def script : Script where
  metadata := Table.ofPairs [("Title", "Ferry"), ("Author", "Nobody")]
  declarations := { globals := ["paid", "wet"], locals := ["seat", "coat"] }
  knots := [pier, deck]
  distinct := by decide

def mirrored : Script where
  metadata := Table.ofPairs [("Author", "Nobody"), ("Title", "Ferry")]
  declarations := { globals := ["wet", "paid"], locals := ["coat", "seat"] }
  knots := [deck, pier]
  distinct := by decide

end Ferry

theorem document_ignores_listing_order_ferry :
    Ferry.script.Reordered Ferry.mirrored ∧
      ∃ one other, Ferry.script.graph "pier" = .ok one ∧ Ferry.mirrored.graph "pier" = .ok other ∧
        one ≠ other ∧ one.renderDocument = other.renderDocument := by
  have reordered : Ferry.script.Reordered Ferry.mirrored :=
    ⟨.swap .., ⟨.swap .., .refl _, .swap ..⟩, .swap ..⟩
  have computed : (Ferry.script.graph "pier").toOption ≠ (Ferry.mirrored.graph "pier").toOption := by
    decide +kernel
  have rendered := document_ignores_listing_order reordered "pier"
  refine ⟨reordered, ?_⟩
  cases built : Ferry.script.graph "pier" with
  | error error =>
      cases twinBuilt : Ferry.mirrored.graph "pier" with
      | error fault =>
          rw [built, twinBuilt] at computed
          exact absurd rfl computed
      | ok other =>
          obtain ⟨one, found⟩ := rendered.1.mpr ⟨other, twinBuilt⟩
          rw [built] at found
          cases found
  | ok one =>
      obtain ⟨other, twinBuilt⟩ := rendered.1.mp ⟨one, built⟩
      refine ⟨one, other, rfl, twinBuilt, ?_, rendered.2.1 one other built twinBuilt⟩
      rintro rfl
      rw [built, twinBuilt] at computed
      exact computed rfl

end Knotwork
