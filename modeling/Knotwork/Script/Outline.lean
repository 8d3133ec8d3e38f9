import Knotwork.Script.Basic

/-!
Outlines: scripts put together by hand, which are checked before they are used.
-/

namespace Knotwork

inductive Objection where
  | tooShort
  | missing
  | rejected (reason : Text)
deriving DecidableEq

def Objection.kind : Objection → Text
  | .tooShort => "string_too_short"
  | .missing => "missing"
  | .rejected _ => "value_error"

def Objection.message : Objection → Text
  | .tooShort => "String should have at least 1 character"
  | .missing => "Field required"
  | .rejected reason => "Value error, " ++ reason

structure Issue where
  path : List Text
  objection : Objection
deriving DecidableEq

namespace Issue

def location (issue : Issue) : Text := Text.joinWith ['.'] issue.path

def within (outer : List Text) (issue : Issue) : Issue := { issue with path := outer ++ issue.path }

end Issue

def issuesWithin {α : Type} (field : Text) (issues : α → List Issue) (items : List α) :
    List Issue :=
  items.zipIdx.flatMap fun (item, index) =>
    (issues item).map (Issue.within [field, Text.ofNat index])

def Change.issues (change : Change) : List Issue :=
  if change.name = [] then [⟨["name"], .tooShort⟩] else []

def Choice.issues (choice : Choice) : List Issue :=
  match issuesWithin "mutations" Change.issues choice.changes with
  | [] =>
      if choice.target.getD [] ≠ [] && choice.stitch.getD [] ≠ [] then
        [⟨[], .rejected ("choice " ++ Text.inQuotes choice.text ++
          " has both a target and a stitch")⟩]
      else []
  | issues => issues

structure KnotOutline where
  name : Option Text
  scene : Text := []
  body : List Block := []
  choices : List Choice := []
  isEnd : Bool := false
deriving DecidableEq

namespace KnotOutline

def nameIssues (outline : KnotOutline) : List Issue :=
  match outline.name with
  | none => [⟨["name"], .missing⟩]
  | some [] => [⟨["name"], .tooShort⟩]
  | some _ => []

def issues (outline : KnotOutline) : List Issue :=
  outline.nameIssues ++ issuesWithin "choices" Choice.issues outline.choices

def toKnot (outline : KnotOutline) : Knot :=
  { name := outline.name.getD [], scene := outline.scene, body := outline.body,
    choices := outline.choices, isEnd := outline.isEnd }

def check (outline : KnotOutline) : Except (List Issue) Knot :=
  match outline.issues with
  | [] => .ok outline.toKnot
  | issues => .error issues

end KnotOutline

structure ScriptOutline where
  metadata : Table Text := Table.empty
  declarations : Declarations := {}
  knots : Table KnotOutline := Table.empty
deriving DecidableEq

namespace ScriptOutline

def knotIssues (outline : ScriptOutline) : List Issue :=
  outline.knots.entries.flatMap fun (key, knot) => knot.issues.map (Issue.within ["knots", key])

def misplaced? (outline : ScriptOutline) : Option (Text × KnotOutline) :=
  outline.knots.entries.find? fun entry => entry.2.toKnot.name ≠ entry.1

def check (outline : ScriptOutline) : Except (List Issue) Script :=
  match outline.knotIssues with
  | [] =>
      match found : outline.misplaced? with
      | some (key, knot) =>
          .error [⟨[], .rejected ("knot registered as " ++ Text.inQuotes key ++ " is named " ++
            Text.inQuotes knot.toKnot.name)⟩]
      | none =>
          .ok
            { metadata := outline.metadata
              declarations := outline.declarations
              knots := outline.knots.values.map KnotOutline.toKnot
              distinct := by
                have named : ∀ entry ∈ outline.knots.entries, entry.2.toKnot.name = entry.1 := by
                  simpa [misplaced?] using found
                have keys : (outline.knots.values.map KnotOutline.toKnot).map Knot.name =
                    outline.knots.entries.map Prod.fst := by
                  simpa [Table.values] using named
                rw [keys]
                exact outline.knots.distinct }
  | issues => .error issues

end ScriptOutline

end Knotwork
