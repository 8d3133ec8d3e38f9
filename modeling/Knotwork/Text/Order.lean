import Knotwork.Text.Basic

/-!
The order of texts by code point, and sorting.
-/

namespace Knotwork

def insertBy {α : Type} (before : α → α → Bool) (item : α) : List α → List α
  | [] => [item]
  | head :: rest => if before item head then item :: head :: rest else head :: insertBy before item rest

def sortBy {α : Type} (before : α → α → Bool) : List α → List α
  | [] => []
  | item :: rest => insertBy before item (sortBy before rest)

namespace Text

def atMost : Text → Text → Bool
  | [], _ => true
  | _ :: _, [] => false
  | a :: as, b :: bs =>
      if a.toNat < b.toNat then true
      else if b.toNat < a.toNat then false
      else atMost as bs

def sort (texts : List Text) : List Text := sortBy atMost texts

end Text

def firstOfEach {α : Type} [DecidableEq α] : List α → List α
  | [] => []
  | item :: rest => item :: (firstOfEach rest).filter (· ≠ item)

end Knotwork
