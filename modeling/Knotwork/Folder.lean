import Knotwork.Path
import Knotwork.Text.Order

/-!
The files around a program: which files there are, what they hold, and what happens when they are
read and written.
-/

namespace Knotwork

inductive FolderError where
  | alreadyThere
  | notFound
  | notAFolder
  | isAFolder
  | nameTooLong
  | nullInName
deriving DecidableEq

/-- Files with their contents, and folders. Places are paths without steps back, except that a
relative place may start with some; the places they lead to are taken to be folders. -/
structure Folder where
  files : List (Path × Text) := []
  folders : List Path := []
deriving DecidableEq

namespace Folder

def file? (folder : Folder) (place : Path) : Option Text := folder.files.lookup place

def isFile (folder : Folder) (place : Path) : Bool := (folder.file? place).isSome

def liesIn (outer inner : Path) : Bool :=
  outer.root = inner.root && outer.parts.isPrefixOf inner.parts && outer.parts ≠ inner.parts

def isFolder (folder : Folder) (place : Path) : Bool :=
  place.parts.all (· = "..".toList) || folder.folders.contains place ||
    folder.files.any (fun entry => liesIn place entry.1) ||
    folder.folders.any (liesIn place)

def isThere (folder : Folder) (place : Path) : Bool := folder.isFile place || folder.isFolder place

def back (place : Path) : Path :=
  match place.parts.getLast? with
  | none => if place.root = [] then place.child ".." else place
  | some part => if part = ".." then place.child ".." else place.parent

def byteLength (t : Text) : Nat := t.foldl (fun size c => size + c.utf8Size) 0

def mostInName : Nat := 255

def mostInPath : Nat := 4095

def walk (folder : Folder) (place : Path) : List Text → Except FolderError Path
  | [] => .ok place
  | part :: rest =>
      if folder.isFile place then .error .notAFolder
      else if !folder.isFolder place then .error .notFound
      else if part = ".." then folder.walk (back place) rest
      else if mostInName < byteLength part then .error .nameTooLong
      else folder.walk (place.child part) rest

def locate (folder : Folder) (path : Path) : Except FolderError Path :=
  if path.render.contains '\x00' then .error .nullInName
  else if mostInPath < byteLength path.render then .error .nameTooLong
  else folder.walk { root := path.root } path.parts

def leadsTo (folder : Folder) (test : Path → Bool) (path : Path) : Except FolderError Bool :=
  match folder.locate path with
  | .ok place => .ok (test place)
  | .error .nameTooLong => .error .nameTooLong
  | .error _ => .ok false

def leadsToFile (folder : Folder) (path : Path) : Except FolderError Bool :=
  folder.leadsTo folder.isFile path

def leadsToFolder (folder : Folder) (path : Path) : Except FolderError Bool :=
  folder.leadsTo folder.isFolder path

def leadsSomewhere (folder : Folder) (path : Path) : Except FolderError Bool :=
  folder.leadsTo folder.isThere path

def read (folder : Folder) (path : Path) : Except FolderError Text := do
  let place ← folder.locate path
  match folder.file? place with
  | some content => return content
  | none => throw (if folder.isFolder place then .isAFolder else .notFound)

def addFolder (folder : Folder) (path : Path) : Except FolderError Folder := do
  let place ← folder.locate path
  if folder.isThere place then throw .alreadyThere
  return { folder with folders := folder.folders ++ [place] }

def orElse (folder : Folder) (path : Path) (error : FolderError) : Except FolderError Folder := do
  if ← folder.leadsToFolder path then return folder else throw error

def ensureParts (folder : Folder) (root : Text) : List Text → Except FolderError Folder
  | [] => .ok folder
  | part :: before =>
      let path : Path := { root, parts := (part :: before).reverse }
      match folder.addFolder path with
      | .ok added => .ok added
      | .error .notFound => do
          let added ← folder.ensureParts root before
          match added.addFolder path with
          | .ok done => return done
          | .error error => added.orElse path error
      | .error error => folder.orElse path error

def ensure (folder : Folder) (path : Path) : Except FolderError Folder :=
  folder.ensureParts path.root path.parts.reverse

def setFile (place : Path) (content : Text) : List (Path × Text) → List (Path × Text)
  | [] => [(place, content)]
  | (p, old) :: rest =>
      if p = place then (p, content) :: rest else (p, old) :: setFile place content rest

def write (folder : Folder) (path : Path) (content : Text) : Except FolderError Folder := do
  let place ← folder.locate path
  if folder.isFolder place then throw .isAFolder
  return { folder with files := setFile place content folder.files }

def append (folder : Folder) (path : Path) (content : Text) : Except FolderError Folder := do
  let place ← folder.locate path
  folder.write path ((folder.file? place).getD [] ++ content)

def changes (before after : Folder) : List (Text × Text) :=
  let changed := after.files.filter fun (place, content) =>
    place.root = [] && place.parts.head? ≠ some ".." && before.file? place ≠ some content
  sortBy (fun first second => Text.atMost first.1 second.1)
    (changed.map fun (place, content) => (place.render, content))

end Folder

end Knotwork
