import Knotwork.Text.Cut
import Knotwork.Variable

/-!
States of a story: the value of every variable at one moment, and how values change.
-/

namespace Knotwork

structure Change where
  name : Text
  value : Bool
deriving DecidableEq

namespace Change

def read (source : Text) : Except ParseError Change :=
  match Text.cut? ['='] source with
  | none => .error { grammar := .script, fault := .notAssignment, line := source }
  | some (name, word) =>
      if name.trim = [] then
        .error { grammar := .script, fault := .notAssignment, line := source }
      else match Text.toBool? word.trim with
        | none =>
            .error { grammar := .script, fault := .badAssignedValue word.trim, line := source }
        | some value => do
            let name ← checkName .script source name.trim
            return { name, value }

def render (change : Change) : Text := change.name ++ " = " ++ Text.ofBool change.value

end Change

abbrev State := Table Bool

namespace State

/-- The value of a variable. A variable that never came up is false. -/
def value (state : State) (name : Text) : Bool := (state.find? name).getD false

def initial (declarations : Declarations) : State :=
  Table.ofPairs (declarations.names.map (·, false))

/-- The state after one change. A flag is never set back to false. -/
def applyChange (declarations : Declarations) (state : State) (change : Change) : State :=
  if change.value = false && declarations.isFlag change.name then state
  else state.insert change.name change.value

def apply (declarations : Declarations) (state : State) (changes : List Change) : State :=
  changes.foldl (applyChange declarations) state

def purge (state : State) (names : List Text) : State :=
  state.insertAll (names.map (·, false))

def renderEntry (entry : Text × Bool) : Text := entry.1 ++ ['='] ++ Text.ofBool entry.2

def describe (state : State) : Text :=
  "StateVector(" ++ Text.joinWith ", " (state.sorted.map renderEntry) ++ ")"

def countDistinct (states : List State) : Nat :=
  (firstOfEach (states.map Table.sorted)).length

end State

end Knotwork
