import Knotwork.Text.Basic

/-!
Cutting text at a mark. Marks are never empty.
-/

namespace Knotwork.Text

def cut? (mark : Text) : Text → Option (Text × Text)
  | [] => none
  | c :: rest =>
      match mark.isPrefixOf? (c :: rest) with
      | some after => some ([], after)
      | none => (cut? mark rest).map fun (before, after) => (c :: before, after)

def hasMark (mark t : Text) : Bool := (cut? mark t).isSome

def dropMark (mark t : Text) : Text := (mark.isPrefixOf? t).getD t

def consFirst (c : Char) : List Text → List Text
  | [] => [[c]]
  | piece :: rest => (c :: piece) :: rest

def piecesFrom (mark : Text) : Nat → Text → List Text
  | _, [] => [[]]
  -- These characters belong to a mark.
  | skip + 1, _ :: rest => piecesFrom mark skip rest
  | 0, c :: rest =>
      if mark.isPrefixOf (c :: rest) then [] :: piecesFrom mark (mark.length - 1) rest
      else consFirst c (piecesFrom mark 0 rest)

def splitOn (mark t : Text) : List Text := piecesFrom mark 0 t

def replace (mark replacement t : Text) : Text := joinWith replacement (splitOn mark t)

end Knotwork.Text
