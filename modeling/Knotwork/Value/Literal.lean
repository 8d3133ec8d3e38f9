import Knotwork.Decimal.Shortest
import Knotwork.Text.Quoted
import Knotwork.Value.Basic

/-!
Values as plain text, for metadata and messages. A text stands for itself; inside a list or a map it
is quoted.
-/

namespace Knotwork.Value

def byteLiteral (quote : Char) (byte : UInt8) : Text :=
  if byte < 0x80 then Text.quotedChar quote (Char.ofNat byte.toNat)
  else "\\x" ++ Text.hexDigits 2 byte.toNat

def bytesLiteral (bytes : List UInt8) : Text :=
  let quote := Text.quoteFor (bytes.map fun byte => Char.ofNat byte.toNat)
  'b' :: quote :: bytes.flatMap (byteLiteral quote) ++ [quote]

mutual

def literalAs (isKey : Bool) : Value → Text
  | .null => "None"
  | .bool value => if value then "True" else "False"
  | .int value => Text.ofInt value
  | .float value => Decimal.ofFloat value
  | .text value => Text.quoted value
  | .bytes value => bytesLiteral value
  | .moment value => value.literal
  | .list items =>
      if isKey then
        ['('] ++ literalItems items ++ (if items.length = 1 then [',', ')'] else [')'])
      else ['['] ++ literalItems items ++ [']']
  | .map members => ['{'] ++ literalMembers members ++ ['}']
  | .collection value => value.literal

def literalItems : List Value → Text
  | [] => []
  | [item] => literalAs false item
  | item :: next :: items => literalAs false item ++ ", " ++ literalItems (next :: items)

def literalMembers : List (Value × Value) → Text
  | [] => []
  | [(key, value)] => literalAs true key ++ ": " ++ literalAs false value
  | (key, value) :: next :: members =>
      literalAs true key ++ ": " ++ literalAs false value ++ ", " ++ literalMembers (next :: members)

end

def literal (value : Value) : Text := literalAs false value

def plainKey : Value → Text
  | .text value => value
  | .moment value => value.render
  | key => literalAs true key

def plain : Value → Text
  | .text value => value
  | .moment value => value.render
  | value => literal value

def mostDigits : Nat := 4300

def tooLongMessage : Text :=
  "Exceeds the limit (4300 digits) for integer string conversion; use sys.set_int_max_str_digits() to increase the limit"

mutual

def isTooLong : Value → Bool
  | .int value => Nat.pow 10 mostDigits ≤ value.natAbs
  | .list items => anyTooLong items
  | .map members => anyMemberTooLong members
  | .collection value => value.isTooLong
  | _ => false

def anyTooLong : List Value → Bool
  | [] => false
  | item :: items => isTooLong item || anyTooLong items

def anyMemberTooLong : List (Value × Value) → Bool
  | [] => false
  | (key, value) :: members => isTooLong key || isTooLong value || anyMemberTooLong members

end

def isVoid : Value → Bool
  | .null => true
  | .bool value => !value
  | .int value => value == 0
  | .float value => value == 0
  | .text value => value.isEmpty
  | .bytes value => value.isEmpty
  | .moment _ => false
  | .list items => items.isEmpty
  | .map members => members.isEmpty
  | .collection value => value.isEmpty

end Knotwork.Value
