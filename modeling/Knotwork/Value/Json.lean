import Knotwork.Value.Literal

/-!
Values as JSON: indented over several lines as documents are published, or in one line of ASCII as
journal entries are written.
-/

namespace Knotwork.Value

def shortEscape? (c : Char) : Option Text :=
  if c = '"' then some "\\\""
  else if c = '\\' then some "\\\\"
  else if c = '\n' then some "\\n"
  else if c = '\r' then some "\\r"
  else if c = '\t' then some "\\t"
  else if c.toNat = 8 then some "\\b"
  else if c.toNat = 12 then some "\\f"
  else none

def unitEscape (unit : Nat) : Text := "\\u" ++ Text.hexDigits 4 unit

def jsonChar (c : Char) : Text :=
  match shortEscape? c with
  | some escape => escape
  | none => if c.toNat < 0x20 then unitEscape c.toNat else [c]

def codeEscape (code : Nat) : Text :=
  if code < 0x10000 then unitEscape code
  else
    unitEscape (0xd800 + (code - 0x10000) / 0x400) ++
      unitEscape (0xdc00 + (code - 0x10000) % 0x400)

def asciiJsonChar (c : Char) : Text :=
  match shortEscape? c with
  | some escape => escape
  | none => if 0x20 ≤ c.toNat && c.toNat < 0x7f then [c] else codeEscape c.toNat

def jsonString (encode : Char → Text) (t : Text) : Text := '"' :: t.flatMap encode ++ ['"']

def jsonCodes (codes : List Nat) : Text :=
  '"' :: (codes.flatMap fun code =>
    if code.isValidChar then asciiJsonChar (Char.ofNat code) else codeEscape code) ++ ['"']

def newline (level : Nat) : Text := '\n' :: List.replicate (2 * level) ' '

def jsonFloat (value : Float) : Text :=
  match Decimal.Binary.ofFloat value with
  | .undefined => "NaN"
  | .infinite negative => if negative then "-Infinity" else "Infinity"
  | .finite .. => Decimal.ofFloat value

def jsonKey : Value → Text
  | .text value => value
  | .null => "null"
  | .bool value => Text.ofBool value
  | .int value => Text.ofInt value
  | .float value => jsonFloat value
  | .moment value => value.render
  | .bytes value => bytesLiteral value
  | .list _ | .map _ | .collection _ => []

mutual

def indented (level : Nat) : Value → Text
  | .null => "null"
  | .bool value => Text.ofBool value
  | .int value => Text.ofInt value
  | .float value => jsonFloat value
  | .text value => jsonString jsonChar value
  | .bytes value => jsonString jsonChar (bytesLiteral value)
  | .moment value => jsonString jsonChar value.render
  | .collection value => jsonString jsonChar value.literal
  | .list [] => "[]"
  | .list (item :: items) =>
      ['['] ++ newline (level + 1) ++ indented (level + 1) item ++
        indentedItems (level + 1) items ++ newline level ++ [']']
  | .map [] => ['{', '}']
  | .map ((key, value) :: members) =>
      ['{'] ++ newline (level + 1) ++ jsonString jsonChar key.jsonKey ++ ": " ++
        indented (level + 1) value ++ indentedMembers (level + 1) members ++ newline level ++ ['}']

def indentedItems (level : Nat) : List Value → Text
  | [] => []
  | item :: items => [','] ++ newline level ++ indented level item ++ indentedItems level items

def indentedMembers (level : Nat) : List (Value × Value) → Text
  | [] => []
  | (key, value) :: members =>
      [','] ++ newline level ++ jsonString jsonChar key.jsonKey ++ ": " ++ indented level value ++
        indentedMembers level members

end

def toJson (value : Value) : Text := indented 0 value

mutual

def toJsonLine : Value → Text
  | .null => "null"
  | .bool value => Text.ofBool value
  | .int value => Text.ofInt value
  | .float value => jsonFloat value
  | .text value => jsonString asciiJsonChar value
  | .bytes value => jsonString asciiJsonChar (bytesLiteral value)
  | .moment value => jsonString asciiJsonChar value.render
  | .collection value => jsonString asciiJsonChar value.literal
  | .list [] => "[]"
  | .list (item :: items) => ['['] ++ toJsonLine item ++ lineItems items ++ [']']
  | .map [] => ['{', '}']
  | .map ((key, value) :: members) =>
      ['{'] ++ jsonString asciiJsonChar key.jsonKey ++ ": " ++ toJsonLine value ++ lineMembers members ++
        ['}']

def lineItems : List Value → Text
  | [] => []
  | item :: items => ", " ++ toJsonLine item ++ lineItems items

def lineMembers : List (Value × Value) → Text
  | [] => []
  | (key, value) :: members =>
      ", " ++ jsonString asciiJsonChar key.jsonKey ++ ": " ++ toJsonLine value ++ lineMembers members

end

end Knotwork.Value
