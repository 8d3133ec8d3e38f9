import Knotwork.Condition
import Knotwork.Script.Basic
import Knotwork.Story.Basic
import Knotwork.Story.Failure

/-!
Exploring a script: finding every knot and state that a reader can come to.

Nodes are visited in the order of discovery, and the choices of a node are followed as they stand. A
node is new if its identity is; the first node of an identity stays.
-/

namespace Knotwork

namespace Knot

def firstContent (state : State) : List Block → Except ParseError Text
  | [] => .ok []
  | block :: rest =>
      match Condition.test block.condition state with
      | .error error => .error error
      | .ok true => .ok block.content
      | .ok false => firstContent state rest

def content (knot : Knot) (state : State) : Except ParseError Text :=
  firstContent state knot.body

def enter (knot : Knot) (state : State) (stitch : Option Text := none) :
    Except ParseError Node := do
  let content ← knot.content state
  return { id := Identity.encode knot.name state, knot := knot.name, scene := knot.scene, state,
           content, isEnd := knot.isEnd, stitch }

end Knot

inductive Move where
  | dropped (text : Text)
  | taken (edge : Edge) (node : Node)
  | failed (error : StoryError)
deriving DecidableEq

namespace Move

def error? : Move → Option StoryError
  | .failed error => some error
  | _ => none

def edge? : Move → Option Edge
  | .taken edge _ => some edge
  | _ => none

def node? : Move → Option Node
  | .taken _ node => some node
  | _ => none

def dropped? : Move → Option Text
  | .dropped text => some text
  | _ => none

end Move

namespace Script

/-- The most nodes that a story can have: every knot, with every declared variable false or true,
and every other variable that some choice assigns absent, false or true. -/
def capacity (script : Script) : Nat :=
  let declared := script.declarations.names
  let assigned := script.knots.flatMap fun knot =>
    knot.choices.flatMap fun choice => choice.changes.map Change.name
  let others := (firstOfEach assigned).filter fun name => !declared.contains name
  script.knots.length * Nat.pow 2 declared.length * Nat.pow 3 others.length

/-- The state in which a knot is entered. A change of scene makes every local variable false. -/
def arrive (script : Script) (fromScene toScene : Text) (state : State) : State :=
  if fromScene = toScene then state
  else state.purge (script.declarations.namesUnder .sceneLocal)

def move? (script : Script) (knot : Knot) (state : State) (choice : Choice) : Option Move :=
  match Condition.test choice.condition state with
  | .error error => some (.failed (.script error))
  | .ok false => none
  | .ok true =>
      match choice.destination? knot.name with
      | none => some (.dropped choice.text)
      | some name =>
          match script.knot? name with
          | none =>
              some (.failed (.unknownKnot name knot.name choice.text script.knotNames))
          | some target =>
              let changed := state.apply script.declarations choice.changes
              match target.enter (script.arrive knot.scene target.scene changed) choice.stitch with
              | .error error => some (.failed (.script error))
              | .ok node =>
                  some (.taken { text := choice.text, target := node.id, stitch := choice.stitch }
                    node)

def moves (script : Script) (node : Node) : List Move :=
  match script.knot? node.knot with
  | none => []
  | some knot => knot.choices.filterMap (script.move? knot node.state)

def discover (known : List Text) : List Node → List Node
  | [] => []
  | node :: rest =>
      if known.contains node.id then discover known rest
      else node :: discover (node.id :: known) rest

end Script

structure Exploration where
  visited : List Node
  error? : Option StoryError := none
deriving DecidableEq

namespace Script

/-- Visits the waiting nodes and those they lead to. Every node is visited once, so `bound` visits
suffice if there are no more nodes than that. -/
def visit (script : Script) : Nat → List Node → List Node → Exploration
  | 0, visited, _ => { visited }
  | _ + 1, visited, [] => { visited }
  | bound + 1, visited, node :: waiting =>
      let moves := script.moves node
      match moves.findSome? Move.error? with
      | some error => { visited := visited ++ [node], error? := some error }
      | none =>
          let visited := visited ++ [{ node with edges := moves.filterMap Move.edge? }]
          let known := (visited ++ waiting).map Node.id
          script.visit bound visited (waiting ++ discover known (moves.filterMap Move.node?))

def explore (script : Script) (entry : Text) : Exploration :=
  match script.knot? entry with
  | none => { visited := [], error? := some (.missingEntry entry script.knotNames) }
  | some knot =>
      match knot.enter (State.initial script.declarations) with
      | .error error => { visited := [], error? := some (.script error) }
      | .ok root => script.visit script.capacity [] [root]

def defaultEntry : Text := "index"

end Script

def Exploration.graph (exploration : Exploration) (script : Script) (entry : Text) :
    Except StoryError Graph :=
  match exploration.error? with
  | some error => .error error
  | none =>
      .ok
        { metadata := script.metadata
          nodes := Table.ofPairs (exploration.visited.map fun node => (node.id, node))
          entry := Identity.encode entry (State.initial script.declarations) }

namespace Script

def graph (script : Script) (entry : Text := defaultEntry) : Except StoryError Graph :=
  (script.explore entry).graph script entry

def droppedChoices (script : Script) (exploration : Exploration) : List (Text × Text) :=
  exploration.visited.flatMap fun node =>
    ((script.moves node).takeWhile fun move => move.error?.isNone).filterMap fun move =>
      move.dropped?.map (node.knot, ·)

end Script

end Knotwork
