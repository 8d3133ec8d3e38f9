import Knotwork.Library.Console.Pictures
import Knotwork.Text.Blank
import Knotwork.Text.Cut
import Knotwork.Text.Lower

/-!
Codes of pictures in shown text: a name between two colons stands for its picture.
-/

namespace Knotwork.Console

def picture? (name : Text) : Option Text :=
  pictures.findSome? fun entries => entries.findSome? fun entry =>
    match Text.splitOn [' '] entry.toList with
    | shown :: names => if names.contains name then some shown else none
    | [] => none

structure PictureCode where
  name : Text
  variant : Text := []
  length : Nat

def pictureCode? : Text → Option PictureCode
  | [] => none
  | c :: rest =>
      if "-emoji:".toList.isPrefixOf (c :: rest) then
        some { name := [], variant := [Char.ofNat 0xfe0f], length := 7 }
      else if "-text:".toList.isPrefixOf (c :: rest) then
        some { name := [], variant := [Char.ofNat 0xfe0e], length := 6 }
      else if c = ':' then some { name := [], length := 1 }
      else if Text.isBlank c then none
      else (pictureCode? rest).map fun code =>
        { code with name := c :: code.name, length := code.length + 1 }

def withPicturesFrom : Nat → Text → Text
  | _, [] => []
  -- These characters belong to a code that is dealt with.
  | skip + 1, _ :: rest => withPicturesFrom skip rest
  | 0, c :: rest =>
      if c = ':' then
        match pictureCode? rest with
        | none => c :: withPicturesFrom 0 rest
        | some code =>
            (match picture? code.name.lower with
              | some picture => picture ++ code.variant
              | none => c :: rest.take code.length) ++ withPicturesFrom code.length rest
      else c :: withPicturesFrom 0 rest

def withPictures (t : Text) : Text := withPicturesFrom 0 t

end Knotwork.Console
