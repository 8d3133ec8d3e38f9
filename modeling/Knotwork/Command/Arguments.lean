import Knotwork.Text.Basic

/-!
Command lines: what a command takes, and what it was given.
-/

namespace Knotwork

inductive NoInvocation where
  | help
  | usage
deriving DecidableEq

namespace Arguments

inductive Content where
  | word
  | path
deriving DecidableEq

structure OptionRule where
  name : Text
  spellings : List Text
  value : Option Content := none
deriving DecidableEq

-- Unless options and words may mix, whatever follows the words is left alone.
structure Signature where
  options : List OptionRule
  words : List Content
  mixed : Bool := true
deriving DecidableEq

structure Parsed where
  given : List (Text × Text) := []
  words : List Text := []
deriving DecidableEq

namespace Parsed

def flag (parsed : Parsed) (name : Text) : Bool := parsed.given.any fun option => option.1 = name

def count (parsed : Parsed) (name : Text) : Nat := (parsed.given.map Prod.fst).count name

def value? (parsed : Parsed) (name : Text) : Option Text := parsed.given.reverse.lookup name

end Parsed

end Arguments

end Knotwork
