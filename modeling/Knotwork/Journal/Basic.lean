import Knotwork.Folder
import Knotwork.Journal.Entry
import Knotwork.Journal.Template

/-!
The journal: which entries are kept, and in which file.
-/

namespace Knotwork

/-- The state of the journal. Entries below the threshold are dropped. The file that was last set up
stays listed when it is closed, until the journal is set up anew. -/
structure Journal where
  threshold : Weight := Weight.warning
  console : Weight := Weight.warning
  file : Option Path := none
  isOpen : Bool := false
  directory : Option Path := none
deriving DecidableEq

inductive JournalError where
  | noDirectory
  | folder (error : FolderError)
deriving DecidableEq

def JournalError.message : JournalError → Text
  | .noDirectory => "log_dir is required when log_to_file=True"
  | .folder _ => "the journal's file cannot be made"

namespace Journal

def fileName : Text := "debug.jsonl"

def sinkWeights (journal : Journal) : List Weight :=
  -- The file takes everything.
  journal.console :: if journal.file.isSome then [Weight.debug] else []

def consoleWeight (verbosity : Int) : Weight :=
  if verbosity = 0 then Weight.warning else if verbosity = 1 then Weight.info else Weight.debug

def close (journal : Journal) : Journal := { journal with isOpen := false }

/-- Sets up the journal, with a file if asked. If the file cannot be made, the journal keeps its
sinks, but its file is closed. -/
def configure (journal : Journal) (folder : Folder) (verbosity : Int) (toFile : Bool)
    (directory : Option Path) : Journal × Folder × Option JournalError :=
  if toFile then
    match directory with
    | none => (journal, folder, some .noDirectory)
    | some path =>
        let closed := { journal.close with directory := some path }
        match folder.ensure path with
        | .error error => (closed, folder, some (.folder error))
        | .ok made =>
            match made.append (path.child fileName) [] with
            | .error error => (closed, made, some (.folder error))
            | .ok opened =>
                ({ threshold := Weight.debug, console := consoleWeight verbosity
                   file := some (path.child fileName), isOpen := true, directory := some path },
                 opened, none)
  else
    ({ threshold := if 0 < verbosity then Weight.debug else Weight.warning
       console := consoleWeight verbosity
       directory := journal.directory }, folder, none)

def passes (journal : Journal) (weight : Weight) : Bool := journal.threshold ≤ weight

def record (journal : Journal) (folder : Folder) (entry : Entry) : Folder :=
  match journal.file with
  | some path =>
      if journal.isOpen && journal.passes entry.weight && Weight.debug ≤ entry.weight then
        match folder.append path entry.render with
        | .ok written => written
        | .error _ => folder
      else folder
  | none => folder

end Journal

end Knotwork
