import Knotwork.Folder
import Knotwork.Settings.Basic

/-!
Settings files: finding and loading them.
-/

namespace Knotwork

namespace Settings

inductive FileProblem where
  | outOfReach (error : FolderError)
  | notFound
  | unreadable (error : FolderError)
  | unloadable (report : Text)
  | empty
  | notMap
  | settings (error : SettingsError)
  | described (reason : Text)

structure FileError where
  path : Text
  problem : FileProblem

namespace FileError

def reason (error : FileError) : Text :=
  match error.problem with
  | .outOfReach _ => "[Errno 36] File name too long: " ++ Text.quoted error.path
  | .notFound => "File not found"
  | .unreadable .isAFolder => "[Errno 21] Is a directory: " ++ Text.quoted error.path
  | .unreadable _ => "[Errno 20] Not a directory: " ++ Text.quoted error.path
  | .unloadable report => report
  | .empty => "Empty file"
  | .notMap => "Top level must be a mapping"
  | .settings error => error.message
  | .described reason => reason

def message (error : FileError) : Text :=
  "Failed to load config at " ++ error.path ++ ": " ++ error.reason

end FileError

def beside (script : Path) : Path := script.parent.child "bigif.yaml"

def look (folder : Folder) (script : Path) : Except FolderError (Option Path) := do
  return if ← folder.leadsSomewhere (beside script) then some (beside script) else none

def find? (folder : Folder) (script : Path) : Option Path :=
  match look folder script with
  | .ok found => found
  | .error _ => none

def choose (folder : Folder) (script : Path) (file : Option Path) :
    Except FolderError (Option Path) :=
  match file with
  | some path => .ok (some path)
  | none => look folder script

section

-- What a text in the notation of settings files says, or a report of what is wrong with it.
variable (value : Text → Except Text Value)

def loadFile (folder : Folder) (environment : Environment) (path : Path) :
    Except FileProblem Settings := do
  let text ← (folder.read path).mapError .unreadable
  match ← (value text).mapError .unloadable with
  | .null => throw .empty
  | .map members => (ofMembers members environment).mapError .settings
  | _ => throw .notMap

def load (folder : Folder) (environment : Environment) (path? : Option Path) :
    Except FileError Settings :=
  match path? with
  | none => (ofMembers [] environment).mapError fun error => ⟨[], .settings error⟩
  | some path =>
      match folder.leadsSomewhere path with
      | .error error => .error ⟨path.render, .outOfReach error⟩
      | .ok false => .error ⟨path.render, .notFound⟩
      | .ok true =>
          (loadFile value folder environment path).mapError fun problem => ⟨path.render, problem⟩

end

end Settings

end Knotwork
