import Knotwork.Text.Cut

/-!
Paths of files, in the notation with slashes.
-/

namespace Knotwork

structure Path where
  root : Text := []
  parts : List Text := []
deriving DecidableEq

namespace Path

def rootOf : Text → Text
  -- Two slashes, and no more than two, are a root of their own.
  | '/' :: '/' :: '/' :: _ => ['/']
  | '/' :: '/' :: _ => ['/', '/']
  | '/' :: _ => ['/']
  | _ => []

def ofText (t : Text) : Path :=
  { root := rootOf t
    parts := (Text.splitOn ['/'] t).filter fun part => part ≠ [] && part ≠ ['.'] }

def render (path : Path) : Text :=
  match path.root ++ Text.joinWith ['/'] path.parts with
  | [] => ['.']
  | t => t

def parent (path : Path) : Path := { path with parts := path.parts.dropLast }

def name (path : Path) : Text := path.parts.getLast?.getD []

def child (path : Path) (part : Text) : Path := { path with parts := path.parts ++ [part] }

end Path

end Knotwork
