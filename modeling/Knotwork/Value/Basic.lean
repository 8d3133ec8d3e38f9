import Knotwork.Value.Moment

/-!
Values: the data of settings, of published documents and of journal entries.
-/

namespace Knotwork

-- Neither a list nor a map: a set, say, or a collection that holds itself.
structure Collection where
  kind : Text
  literal : Text
  isEmpty : Bool := false
  isTooLong : Bool := false
deriving DecidableEq

inductive Value where
  | null
  | bool (value : Bool)
  | int (value : Int)
  | float (value : Float)
  | text (value : Text)
  | bytes (value : List UInt8)
  | moment (value : Moment)
  | list (items : List Value)
  | map (members : List (Value × Value))
  | collection (value : Collection)
deriving Inhabited

namespace Value

def texts (items : List Text) : Value := .list (items.map .text)

def nat (n : Nat) : Value := .int n

def record (members : List (Text × Value)) : Value :=
  .map (members.map fun (key, value) => (.text key, value))

def member? (key : Text) : List (Value × Value) → Option Value
  | [] => none
  | (.text k, value) :: rest => if k = key then some value else member? key rest
  | _ :: rest => member? key rest

end Value

end Knotwork
