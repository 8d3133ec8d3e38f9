import Knotwork.Text.Basic

/-!
Blank characters: the white space that is removed around text.
-/

namespace Knotwork.Text

/-- White space: the separators of lines and paragraphs, the spaces of every width, and the control
characters that tabulate or separate. Joiners and marks without width are not blank. -/
def isBlank (c : Char) : Bool :=
  let code := c.toNat
  (9 ≤ code && code ≤ 13) || (0x1c ≤ code && code ≤ 0x20) || code == 0x85 || code == 0xa0 ||
    code == 0x1680 || (0x2000 ≤ code && code ≤ 0x200a) || code == 0x2028 || code == 0x2029 ||
    code == 0x202f || code == 0x205f || code == 0x3000

def trimStart (t : Text) : Text := t.dropWhile isBlank

def trimEnd (t : Text) : Text := (t.reverse.dropWhile isBlank).reverse

def trim (t : Text) : Text := trimEnd (trimStart t)

def trim? (t : Text) : Option Text := if trim t = [] then none else some (trim t)

end Knotwork.Text
