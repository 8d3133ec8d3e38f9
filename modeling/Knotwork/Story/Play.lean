import Knotwork.Condition
import Knotwork.Script.Basic
import Knotwork.Story.Basic

/-!
Playing a story, by the script itself and along its graph.

A play by the script keeps a knot and the state of the variables. A play along the graph keeps only
a node. Both are told by the numbers of the options that a reader takes.
-/

namespace Knotwork

structure Position where
  knot : Knot
  state : State
deriving DecidableEq

namespace Position

def allows (position : Position) (condition : Text) : Bool :=
  match Condition.read condition with
  | .ok condition => condition.holds position.state
  | .error _ => false

def shown (position : Position) : Text :=
  ((position.knot.body.find? fun block => position.allows block.condition).map
    Block.content).getD []

def options (position : Position) : List Choice :=
  position.knot.choices.filter fun choice =>
    position.allows choice.condition && (choice.destination? position.knot.name).isSome

end Position

namespace Script

def start? (script : Script) (entry : Text) : Option Position :=
  (script.knot? entry).map fun knot => { knot, state := State.initial script.declarations }

def follow? (script : Script) (position : Position) (choice : Choice) : Option Position := do
  let knot ← script.knot? (← choice.destination? position.knot.name)
  let changed := position.state.apply script.declarations choice.changes
  let locals := script.declarations.namesUnder .sceneLocal
  return { knot, state := if position.knot.scene = knot.scene then changed else changed.purge locals }

def step? (script : Script) (position : Position) (number : Nat) : Option Position := do
  script.follow? position (← position.options[number]?)

def play? (script : Script) (position : Position) : List Nat → Option Position
  | [] => some position
  | number :: rest => do script.play? (← script.step? position number) rest

end Script

namespace Graph

def step? (graph : Graph) (node : Node) (number : Nat) : Option Node := do
  graph.nodes.find? (← node.edges[number]?).target

def walk? (graph : Graph) (node : Node) : List Nat → Option Node
  | [] => some node
  | number :: rest => do graph.walk? (← graph.step? node number) rest

end Graph

end Knotwork
