import Knotwork.Text.Basic

/-!
Comparing a word with an ASCII keyword whatever the case of its letters.

A character can take part in such a comparison only if its capital (or small) form is ASCII. The few
characters outside ASCII with that property are the dotless i, the long s, the sharp s and the
ligatures of f, s and t; their capital forms may be several letters long. The only one with an ASCII
small form is the Kelvin sign.
-/

namespace Knotwork.Text

def capital? (c : Char) : Option Text :=
  let code := c.toNat
  if code < 0x80 then some [c.toUpper]
  else if code = 0xdf then some "SS"
  else if code = 0x131 then some "I"
  else if code = 0x17f then some "S"
  else if code = 0xfb00 then some "FF"
  else if code = 0xfb01 then some "FI"
  else if code = 0xfb02 then some "FL"
  else if code = 0xfb03 then some "FFI"
  else if code = 0xfb04 then some "FFL"
  else if code = 0xfb05 || code = 0xfb06 then some "ST"
  else none

def capitals? : Text → Option Text
  | [] => some []
  | c :: rest =>
      match capital? c, capitals? rest with
      | some first, some others => some (first ++ others)
      | _, _ => none

def small? (c : Char) : Option Char :=
  let code := c.toNat
  if code < 0x80 then some c.toLower else if code = 0x212a then some 'k' else none

def smalls? : Text → Option Text
  | [] => some []
  | c :: rest =>
      match small? c, smalls? rest with
      | some first, some others => some (first :: others)
      | _, _ => none

end Knotwork.Text
