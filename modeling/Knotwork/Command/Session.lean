import Knotwork.Feedback
import Knotwork.Journal.Basic
import Knotwork.Library.Basic
import Knotwork.Settings.File

/-!
Sessions: one run of the program, with all that it reads, writes and shows.
-/

namespace Knotwork

inductive Shown where
  | line (text : Text)
  | table (title : Text) (rows : List (Text × Text))
  | feedback (document : Feedback)
deriving DecidableEq

inductive Crash where
  | folder (error : FolderError)
  | wrongKind
  | integerTooLong
  | markup (fault : Markup.Fault)
  | unknownKey (error : Table.UnknownKey)
deriving DecidableEq

inductive Stop where
  | exit (code : Nat)
  | crash (crash : Crash)
deriving DecidableEq

structure Session where
  folder : Folder
  environment : Environment := Table.empty
  journal : Journal := {}
  shown : List Shown := []
  output : Text := []
deriving DecidableEq

abbrev Run := ReaderT Library (ExceptT Stop (StateM Session))

namespace Run

def crash {α : Type} (reason : Crash) : Run α := throw (.crash reason)

def orCrash {α ε : Type} (reason : ε → Crash) : Except ε α → Run α
  | .ok value => pure value
  | .error error => crash (reason error)

def print (markup : Text) : Run Unit := do
  match (← read).display markup with
  | .error fault => crash (.markup fault)
  | .ok text => modify fun session => { session with shown := session.shown ++ [.line text] }

def present (item : Shown) : Run Unit :=
  modify fun session => { session with shown := session.shown ++ [item] }

def emit (text : Text) : Run Unit := do
  let written := (← read).echo text
  modify fun session => { session with output := session.output ++ written }

def record (entry : Entry) : Run Unit :=
  modify fun session =>
    { session with folder := session.journal.record session.folder entry }

def note (weight : Weight) (source message : Text) (fields : List (Text × Value)) : Run Unit := do
  let entry : Entry :=
    { weight, source, message := Template.codes message, fields := Table.ofPairs fields }
  match (← read).pass (← get).journal.threshold entry with
  | some entry => record entry
  | none => pure ()

def changeFolder (change : Folder → Except FolderError Folder) : Run Unit := do
  let folder ← orCrash .folder (change (← get).folder)
  modify fun session => { session with folder }

def failWith {α : Type} (message : Text) : Run α := do
  print ("[red]Error:[/red] " ++ message)
  throw (.exit 1)

end Run

end Knotwork
