import Knotwork.State

/-!
Conditions: conjunctions of comparisons of a variable with a truth value.
-/

namespace Knotwork

structure Comparison where
  name : Text
  negated : Bool
  expected : Bool
deriving DecidableEq

namespace Comparison

def holds (comparison : Comparison) (state : State) : Bool :=
  (state.value comparison.name == comparison.expected) != comparison.negated

def render (comparison : Comparison) : Text :=
  comparison.name ++ (if comparison.negated then " != " else " == ") ++
    Text.ofBool comparison.expected

def ofSides (source : Text) (negated : Bool) (name word : Text) : Except ParseError Comparison :=
  if name.trim = [] then
    .error { grammar := .condition, fault := .missingVariable, line := source }
  else do
    let name ← checkName .condition source name.trim
    match Text.toBool? word.trim with
    | some expected => return { name, negated, expected }
    | none =>
        throw { grammar := .condition, fault := .notTruthValue word.trim, line := source }

/-- Reads one comparison of a condition. A sign of difference anywhere in it wins over a sign of
equality, and the first sign divides the sides. -/
def read (source part : Text) : Except ParseError Comparison :=
  match Text.cut? ['!', '='] part with
  | some (name, word) => ofSides source true name word
  | none =>
      match Text.cut? ['=', '='] part with
      | some (name, word) => ofSides source false name word
      | none => .error { grammar := .condition, fault := .noOperator part, line := source }

end Comparison

structure Condition where
  comparisons : List Comparison
deriving DecidableEq

namespace Condition

def holds (condition : Condition) (state : State) : Bool :=
  condition.comparisons.all (·.holds state)

def names (condition : Condition) : List Text :=
  Text.sort (firstOfEach (condition.comparisons.map Comparison.name))

def render (condition : Condition) : Text :=
  Text.joinWith " && " (condition.comparisons.map Comparison.render)

def readPart (source part : Text) : Except ParseError Comparison :=
  if part.trim = [] then
    .error { grammar := .condition, fault := .emptyComparison, line := source }
  else Comparison.read source part.trim

def read (source : Text) : Except ParseError Condition :=
  if source.trim = [] then .ok ⟨[]⟩
  else do
    let comparisons ← (Text.splitOn ['&', '&'] source).mapM (readPart source)
    return ⟨comparisons⟩

def test (source : Text) (state : State) : Except ParseError Bool := do
  return (← read source).holds state

end Condition

end Knotwork
