/-!
Text as a list of characters. Every function on text is a recursion on that list, so text can be
evaluated and reasoned about character by character. String literals stand for their characters.
-/

namespace Knotwork

abbrev Text := List Char

instance : Coe String Text := ⟨String.toList⟩

namespace Text

def ofNat (n : Nat) : Text := Nat.toDigits 10 n

def ofInt : Int → Text
  | .ofNat n => ofNat n
  | .negSucc n => '-' :: ofNat (n + 1)

def ofBool (value : Bool) : Text := if value then "true" else "false"

def toBool? (word : Text) : Option Bool :=
  if word = "true" then some true else if word = "false" then some false else none

@[simp] theorem toBool?_ofBool (value : Bool) : toBool? (ofBool value) = some value := by
  cases value <;> rfl

def joinWith (separator : Text) : List Text → Text
  | [] => []
  | [piece] => piece
  | piece :: next :: rest => piece ++ separator ++ joinWith separator (next :: rest)

def inQuotes (name : Text) : Text := '\'' :: name ++ ['\'']

end Text

end Knotwork
