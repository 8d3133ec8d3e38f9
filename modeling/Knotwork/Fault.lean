import Knotwork.Text.Blank
import Knotwork.Text.Quoted

/-!
What can be wrong with a piece of a script, and how it is reported.
-/

namespace Knotwork

inductive Fault where
  | emptyName
  | reservedInName (name : Text) (reserved : List Char)
  | emptyComparison
  | missingVariable
  | notTruthValue (word : Text)
  | noOperator (part : Text)
  | notAssignment
  | badAssignedValue (word : Text)
  | unmatchedBraces
  | noDestination
  | emptyChoice
  | emptyKnotName
  | reservedInKnotName
  | duplicateKnot (name : Text)
  | described (reason : Text)
deriving DecidableEq

def Fault.reason : Fault → Text
  | .emptyName => "variable name is empty"
  | .reservedInName name reserved =>
      "variable name " ++ Text.inQuotes name ++ " may not contain " ++
        Text.joinWith " or " (reserved.map fun mark => Text.quoted [mark])
  | .emptyComparison => "empty comparison in condition"
  | .missingVariable => "comparison is missing a variable name"
  | .notTruthValue word => "expected 'true' or 'false', got " ++ Text.inQuotes word
  | .noOperator part => "comparison " ++ Text.inQuotes part ++ " has no '==' or '!='"
  | .notAssignment => "state change must look like 'name = true|false'"
  | .badAssignedValue word =>
      "state change value must be 'true' or 'false', got " ++ Text.inQuotes word
  | .unmatchedBraces => "mismatched braces in condition"
  | .noDestination => "choice arrow has no destination"
  | .emptyChoice => "choice appears to be empty"
  | .emptyKnotName => "found knot with empty name"
  | .reservedInKnotName => "knot name may not contain '|'"
  | .duplicateKnot name => "duplicate knot " ++ Text.inQuotes name
  | .described reason => reason

inductive Grammar where
  | script
  | condition
deriving DecidableEq

/-- A fault with the place where it was found. The line number counts from one and is zero while the
place is not known; the line is then the faulty piece of text, if there is one to show. -/
structure ParseError where
  grammar : Grammar
  fault : Fault
  lineNumber : Int := 0
  line : Text := []
deriving DecidableEq

namespace ParseError

def locate (error : ParseError) (lineNumber : Int) (line : Text) : ParseError :=
  { error with lineNumber, line }

def reason (error : ParseError) : Text := error.fault.reason

def message (error : ParseError) : Text :=
  if error.lineNumber ≠ 0 then
    "line " ++ Text.ofInt error.lineNumber ++ ": " ++ error.reason ++ ": " ++
      Text.quoted error.line.trim
  else if error.line ≠ [] then error.reason ++ ": " ++ Text.quoted error.line.trim
  else error.reason

end ParseError

end Knotwork
