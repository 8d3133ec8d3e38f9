import Knotwork.Artifact.Document
import Knotwork.Artifact.Passages
import Knotwork.Folder

/-!
Formats in which stories are published.
-/

namespace Knotwork

inductive Format where
  | json
  | twee
deriving DecidableEq

namespace Format

def name : Format → Text
  | .json => "json"
  | .twee => "twee"

def all : List Format := [.json, .twee]

structure Unknown where
  name : Text
deriving DecidableEq

def Unknown.message (error : Unknown) : Text :=
  "Unknown export format " ++ Text.inQuotes error.name ++ ". Supported: " ++
    Text.joinWith ", " (all.map Format.name)

def ofName (name : Text) : Except Unknown Format :=
  match all.find? fun format => format.name = name with
  | some format => .ok format
  | none => .error ⟨name⟩

def fileName (format : Format) : Text := "story." ++ format.name

def render (format : Format) (graph : Graph) : Except Table.UnknownKey Text :=
  match format with
  | .json => .ok graph.renderDocument
  | .twee => graph.renderPassages

def fileContent (format : Format) (graph : Graph) : Except Table.UnknownKey Text := do
  let text ← format.render graph
  return match format with
    | .json => text ++ ['\n']
    | .twee => text

inductive PublishError where
  | folder (error : FolderError)
  | key (error : Table.UnknownKey)
deriving DecidableEq

def publish (format : Format) (graph : Graph) (directory : Path) (folder : Folder) :
    Except PublishError (Path × Folder) := do
  let folder ← (folder.ensure directory).mapError .folder
  let path := directory.child format.fileName
  let content ← (format.fileContent graph).mapError .key
  let folder ← (folder.write path content).mapError .folder
  return (path, folder)

end Format

end Knotwork
