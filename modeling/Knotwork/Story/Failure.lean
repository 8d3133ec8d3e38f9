import Knotwork.Fault
import Knotwork.Feedback

/-!
Why a script does not become a story, and what its author is told.
-/

namespace Knotwork

inductive StoryError where
  | script (error : ParseError)
  | missingEntry (entry : Text) (available : List Text)
  | unknownKnot (target source choice : Text) (available : List Text)
  | structural (reason : Text)
  | corrupted (violations : List Text)
deriving DecidableEq

namespace StoryError

def fromKnot (source : Text) : Text :=
  if source = [] then [] else " (from knot " ++ Text.inQuotes source ++ ")"

def stage : StoryError → Text
  | .script _ => "parse"
  | .missingEntry .. | .unknownKnot .. | .structural _ => "graph"
  | .corrupted _ => "validate"

def message : StoryError → Text
  | .script error => error.message
  | .missingEntry entry _ => "script must contain a starting knot named " ++ Text.inQuotes entry
  | .unknownKnot target source _ _ =>
      "choice leads to non-existent knot: " ++ Text.inQuotes target ++ fromKnot source
  | .structural reason => reason
  | .corrupted violations =>
      Text.joinWith ['\n']
        ("Story graph failed invariant checks:".toList ::
          (violations.take 5 ++ moreThan 5 violations).map fun item => ("  - " ++ item : Text))

def adviceOnEntry (entry : Text) (close available : List Text) : Feedback :=
  { heading := "Structural Error: Missing Entry Knot"
    parts :=
      { lines := ["**Expected**: " ++ asCode ("=== " ++ entry ++ " ===")] } ::
        FeedbackPart.didYouMean close ++
        [if available = [] then
          { lines := ["**Problem**: The script defines no knots at all."] }
        else FeedbackPart.availableKnots available] }

def feedback? : StoryError → Option Feedback
  | .missingEntry entry available =>
      some (adviceOnEntry entry (Text.suggestions entry available) available)
  | .unknownKnot target source choice available =>
      some
        { heading := "Structural Error: Unknown Knot"
          parts :=
            { lines :=
                ["**Choice**: " ++ asCode choice ++ " in knot " ++ asCode source,
                 "**Target**: " ++ asCode target] } ::
              { lines := ["**Problem**: No knot with this name exists in the script."] } ::
              FeedbackPart.didYouMean (Text.suggestions target available) ++
              [FeedbackPart.availableKnots available] }
  | _ => none

end StoryError

end Knotwork
