import Knotwork.Journal.Basic

/-!
Events that parts of the program tell, and messages from templates, on their way to the journal.
-/

namespace Knotwork

def Weight.ofWord? (word : Text) : Option Weight :=
  if word = "debug" then some Weight.debug
  else if word = "info" || word = "msg" then some Weight.info
  else if word = "warning" || word = "warn" then some Weight.warning
  else if word = "error" || word = "exception" then some Weight.error
  else if word = "critical" || word = "fatal" then some Weight.critical
  else none

/-- Whether a console can show an entry. It adds the stack and the report of an exception as they are,
so both have to be texts if they are there. -/
def Entry.isShowable (entry : Entry) : Bool :=
  let isText (key : Text) : Bool := match entry.fields.find? key with
    | none | some .null | some (.text _) => true
    | some _ => false
  isText "stack" && isText "exception"

namespace Journal

def reachesConsole (journal : Journal) (weight : Weight) : Bool :=
  journal.passes weight && journal.console ≤ weight

def takenNames (journal : Journal) (weight : Weight) : List Text :=
  if journal.passes weight then ["self", "event", "method_name"] else ["self", "event"]

inductive Refusal where
  | takenName
  | notShowable
  | template (error : TemplateError)
deriving DecidableEq

def eventFields (word : Text) (fields : Table Value) : Table Value :=
  if word = "exception" && !fields.contains "exc_info" then fields.insert "exc_info" (.bool true)
  else fields

/-- Tells an event. The console comes first, so an event that it cannot show is not written. Words
that stand for no weight are told in vain. -/
def tell (journal : Journal) (folder : Folder) (word source message : Text) (fields : Table Value) :
    Except Refusal Folder :=
  match Weight.ofWord? word with
  | none => .ok folder
  | some weight =>
      let entry : Entry :=
        { weight, source, message := Template.codes message, fields := eventFields word fields }
      if fields.keys.any fun key => (journal.takenNames weight).contains key then
        .error .takenName
      else if journal.reachesConsole weight && !entry.isShowable then .error .notShowable
      else .ok (journal.record folder entry)

/-- Keeps a message from a template and its values. If they do not fit each other, the console
refuses the message; where it goes to the file alone it is dropped. -/
def log (journal : Journal) (folder : Folder) (weight : Weight) (source template : Text)
    (values : List Value) : Except Refusal Folder :=
  match Template.render template values with
  | .ok message => .ok (journal.record folder { weight, source, message })
  | .error error =>
      if journal.reachesConsole weight then .error (.template error) else .ok folder

end Journal

end Knotwork
