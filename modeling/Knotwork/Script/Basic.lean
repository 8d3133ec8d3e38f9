import Knotwork.State

/-!
Scripts: knots with conditional text and choices, beside metadata and declarations of variables.
-/

namespace Knotwork

structure Block where
  condition : Text := []
  content : Text := []
deriving DecidableEq

structure Choice where
  text : Text := []
  condition : Text := []
  changes : List Change := []
  target : Option Text := none
  stitch : Option Text := none
deriving DecidableEq

/-- The knot that a choice leads to from the present one. A choice without a target that changes the
state stays where it is, and any other choice without a target leads nowhere. -/
def Choice.destination? (choice : Choice) (current : Text) : Option Text :=
  match choice.target with
  | some (c :: rest) => some (c :: rest)
  | _ => if choice.changes.isEmpty then none else some current

structure Knot where
  name : Text
  scene : Text := []
  body : List Block := []
  choices : List Choice := []
  isEnd : Bool := false
deriving DecidableEq

structure Script where
  metadata : Table Text := Table.empty
  declarations : Declarations := {}
  knots : List Knot := []
  distinct : (knots.map Knot.name).Nodup := by simp
deriving DecidableEq

namespace Script

def knot? (script : Script) (name : Text) : Option Knot :=
  script.knots.find? fun knot => knot.name = name

def knotNames (script : Script) : List Text := script.knots.map Knot.name

end Script

end Knotwork
