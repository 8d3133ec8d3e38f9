import Knotwork.Decimal.Fixed
import Knotwork.Value.Literal

/-!
Templates of messages: text with places for values, marked by percent signs.
-/

namespace Knotwork

inductive TemplateError where
  | incomplete
  | incompleteKey
  | unknownKind (kind : Char) (index : Nat)
  | widthTooBig
  | precisionTooBig
  | unknownKey (key : Text)
  | widthOutOfRange
  | precisionOutOfRange
  | infiniteInteger
  | undefinedInteger
  | integerTooLarge
  | charOutOfRange
  | tooWide
  | noMap
  | valueMissing
  | valueLeft
  | wrongValue
deriving DecidableEq

def TemplateError.message : TemplateError → Text
  | .incomplete => "incomplete format"
  | .incompleteKey => "incomplete format key"
  | .unknownKind kind index =>
      "unsupported format character '" ++
        [if 31 ≤ kind.toNat && kind.toNat ≤ 126 then kind else '?'] ++ "' (0x" ++
        Nat.toDigits 16 kind.toNat ++ ") at index " ++ Text.ofNat index
  | .widthTooBig => "width too big"
  | .precisionTooBig => "precision too big"
  | .unknownKey key => Text.quoted key
  | .widthOutOfRange => "Python int too large to convert to C ssize_t"
  | .precisionOutOfRange => "Python int too large to convert to C int"
  | .infiniteInteger => "cannot convert float infinity to integer"
  | .undefinedInteger => "cannot convert float NaN to integer"
  | .integerTooLarge => "int too large to convert to float"
  | .charOutOfRange => "%c arg not in range(0x110000)"
  | .tooWide => []
  | .noMap => "format requires a mapping"
  | .valueMissing => "not enough arguments for format string"
  | .valueLeft => "not all arguments converted during string formatting"
  | .wrongValue => "a value of another kind is required"

namespace Template

structure Place where
  flags : Text := []
  width : Nat := 0
  precision : Option Nat := none
  kind : Char
deriving DecidableEq

structure Progress where
  rest : Text
  values : List Value

def natural (t : Text) : Nat := t.foldl (fun n c => n * 10 + (c.toNat - 48)) 0

def readKey? : Nat → Text → Option (Text × Text)
  | _, [] => none
  | 0, ')' :: rest => some ([], rest)
  | depth, c :: rest =>
      let inner := if c = '(' then depth + 1 else if c = ')' then depth - 1 else depth
      (readKey? inner rest).map fun (key, rest) => (c :: key, rest)

def fill (place : Place) (sign body : Text) (isNumber : Bool) : Text :=
  let missing := place.width - (sign.length + body.length)
  if place.flags.contains '-' then sign ++ body ++ List.replicate missing ' '
  else if isNumber && place.flags.contains '0' then sign ++ List.replicate missing '0' ++ body
  else List.replicate missing ' ' ++ sign ++ body

def signOf (place : Place) (negative : Bool) : Text :=
  if negative then ['-']
  else if place.flags.contains '+' then ['+']
  else if place.flags.contains ' ' then [' ']
  else []

def whole : Value → Except TemplateError Int
  | .int n => .ok n
  | .bool b => .ok (if b then 1 else 0)
  | _ => .error .wrongValue

def integer (value : Value) : Except TemplateError Int :=
  match value with
  | .float x =>
      let number := Decimal.Binary.ofFloat x
      match number.truncate?, number with
      | some n, _ => .ok n
      | none, .undefined => .error .undefinedInteger
      | none, _ => .error .infiniteInteger
  | _ => whole value

def binary (value : Value) : Except TemplateError Decimal.Binary :=
  match value with
  | .float x => .ok (Decimal.Binary.ofFloat x)
  | _ => do
      let n ← whole value
      match Decimal.Binary.ofFloat (Float.ofScientific n.natAbs false 0) with
      | .finite _ mantissa exponent => return .finite (n < 0) mantissa exponent
      | _ => throw .integerTooLarge

def inBase (place : Place) (base : Nat) (mark : Text) (n : Int) : Text :=
  let body := Decimal.atLeast (place.precision.getD 0) (Nat.toDigits base n.natAbs)
  let mark := if place.flags.contains '#' then mark else []
  fill place (signOf place (n < 0) ++ mark) body true

def withPoint (body : Text) : Text :=
  if body.contains '.' then body
  else body.takeWhile (· ≠ 'e') ++ ['.'] ++ body.dropWhile (· ≠ 'e')

def decimal (place : Place) (value : Decimal.Binary) : Text :=
  let places := place.precision.getD 6
  let isMarked := place.flags.contains '#'
  let mark (body : Text) : Text := if isMarked then withPoint body else body
  match value with
  | .undefined => fill place (signOf place false) "nan" true
  | .infinite negative => fill place (signOf place negative) "inf" true
  | .finite negative mantissa exponent =>
      let (numerator, denominator) := Decimal.Binary.fraction mantissa exponent
      let body := match place.kind.toLower with
        | 'e' => Decimal.withExponent numerator denominator places
        | 'f' => Decimal.fixed numerator denominator places
        | _ => Decimal.general numerator denominator places isMarked
      fill place (signOf place negative) (mark body) true

def asciiChar (c : Char) : Text :=
  if c.toNat < 128 then [c]
  else if c.toNat < 0x100 then "\\x" ++ Text.hexDigits 2 c.toNat
  else if c.toNat < 0x10000 then "\\u" ++ Text.hexDigits 4 c.toNat
  else "\\U" ++ Text.hexDigits 8 c.toNat

def codePoint (value : Value) : Except TemplateError Nat :=
  match value with
  | .text [c] => .ok c.toNat
  | _ => do
      let n ← whole value
      if 0 ≤ n && n < 0x110000 then return n.toNat else throw .charOutOfRange

def codes (t : Text) : List Nat := t.map Char.toNat

def mostRoom : Nat := 100000000

def checkRoom (place : Place) : Except TemplateError Unit :=
  if mostRoom < place.width || mostRoom < place.precision.getD 0 then .error .tooWide else .ok ()

def setText (place : Place) (t : Text) : Except TemplateError (List Nat) := do
  checkRoom place
  return codes (fill place [] (match place.precision with | some n => t.take n | none => t) false)

def setInteger (place : Place) (base : Nat) (mark : Text) (n : Int) :
    Except TemplateError (List Nat) := do
  checkRoom place
  return codes (inBase place base mark n)

def setDecimal (place : Place) (number : Decimal.Binary) : Except TemplateError (List Nat) := do
  checkRoom place
  return codes (decimal place number)

def setCode (place : Place) (code : Nat) : Except TemplateError (List Nat) := do
  checkRoom place
  let blanks := List.replicate (place.width - 1) 32
  return if place.flags.contains '-' then code :: blanks else blanks ++ [code]

def capitals (codes : List Nat) : List Nat :=
  codes.map fun code => if 97 ≤ code && code ≤ 122 then code - 32 else code

def set (index : Nat) (place : Place) (value : Value) : Except TemplateError (List Nat) := do
  match place.kind with
  | 's' => setText place value.plain
  | 'r' => setText place value.literal
  | 'a' => setText place (value.literal.flatMap asciiChar)
  | 'd' | 'i' | 'u' => setInteger place 10 [] (← integer value)
  | 'x' => setInteger place 16 "0x" (← whole value)
  | 'X' => return capitals (← setInteger place 16 "0x" (← whole value))
  | 'o' => setInteger place 8 "0o" (← whole value)
  | 'e' | 'f' | 'g' => setDecimal place (← binary value)
  | 'E' | 'F' | 'G' => return capitals (← setDecimal place (← binary value))
  | 'c' => setCode place (← codePoint value)
  | kind => throw (.unknownKind kind index)

def take (progress : Progress) : Except TemplateError (Value × List Value) :=
  match progress.values with
  | [] => .error .valueMissing
  | value :: rest => .ok (value, rest)

def readNumber (limit : Nat) (tooBig outOfRange : TemplateError) (progress : Progress) :
    Except TemplateError (Option Int × Progress) :=
  match progress.rest with
  | '*' :: rest => do
      let (value, values) ← take progress
      let n ← whole value
      if n < -limit || limit ≤ n then throw outOfRange
      return (some n, { rest, values })
  | text =>
      match text.takeWhile Char.isDigit with
      | [] => .ok (none, progress)
      | digits =>
          if natural digits < limit then
            .ok (some (natural digits), { progress with rest := text.dropWhile Char.isDigit })
          else .error tooBig

def readFlags (progress : Progress) : Text × Progress :=
  let isFlag (c : Char) := "#0- +".toList.contains c
  (progress.rest.takeWhile isFlag, { progress with rest := progress.rest.dropWhile isFlag })

def chooseByKey (members : List (Value × Value)) (progress : Progress) :
    Except TemplateError Progress :=
  match progress.rest with
  | '(' :: rest =>
      if members.isEmpty then .error .noMap
      else match readKey? 0 rest with
        | none => .error .incompleteKey
        | some (key, rest) =>
            match Value.member? key members with
            | none => .error (.unknownKey key)
            | some value => .ok { rest, values := [value] }
  | _ => .ok progress

/-- Reads a place from behind its percent sign. A width below zero asks for the left side, a precision
below zero counts as zero, and a letter for the length of a number has no effect. -/
def readPlace (members : List (Value × Value)) (progress : Progress) :
    Except TemplateError (Place × Progress) := do
  let progress ← chooseByKey members progress
  let (flags, progress) := readFlags progress
  let (width, progress) ← readNumber (Nat.pow 2 63) .widthTooBig .widthOutOfRange progress
  let (precision, progress) ← match progress.rest with
    | '.' :: rest => do
        let (precision, progress) ←
          readNumber (Nat.pow 2 31) .precisionTooBig .precisionOutOfRange { progress with rest }
        pure (some (precision.getD 0).toNat, progress)
    | _ => pure (none, progress)
  let rest := match progress.rest with
    | c :: more => if c = 'l' || c = 'h' || c = 'L' then more else progress.rest
    | [] => []
  match rest with
  | [] => throw .incomplete
  | kind :: rest =>
      let width := width.getD 0
      let flags := if width < 0 then '-' :: flags else flags
      return ({ flags, width := width.natAbs, precision, kind }, { progress with rest })

/-- Sets values into a template, one after the other, or by key from a map. `size` is the length of
the whole template. The bound is the length of what is left of it. -/
def fillIn (members : List (Value × Value)) (size : Nat) :
    Nat → Progress → Except TemplateError (List Nat)
  | 0, _ => .error .incomplete
  | bound + 1, progress =>
      match progress.rest with
      | [] => if progress.values.isEmpty || !members.isEmpty then .ok [] else .error .valueLeft
      | '%' :: '%' :: rest => return 37 :: (← fillIn members size bound { progress with rest })
      | '%' :: rest => do
          let (place, progress) ← readPlace members { progress with rest }
          let (value, values) ← take progress
          let shown ← set (size - progress.rest.length - 1) place value
          return shown ++ (← fillIn members size bound { progress with values })
      | c :: rest => return c.toNat :: (← fillIn members size bound { progress with rest })

def render (template : Text) (values : List Value) : Except TemplateError (List Nat) :=
  match values with
  | [] => .ok (codes template)
  | [.map (member :: members)] =>
      fillIn (member :: members) template.length (template.length + 1) { rest := template, values }
  | _ => fillIn [] template.length (template.length + 1) { rest := template, values }

end Template

end Knotwork
