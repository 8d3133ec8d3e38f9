import Knotwork.Decimal.Shortest
import Knotwork.Library.Yaml.Scalar
import Knotwork.Value.Literal

/-!
What plain scalars mean: a number, a moment, a truth value or nothing, if they have the look of it,
and else a text.
-/

namespace Knotwork.Yaml

inductive Look where
  | nothing
  | truth (value : Bool)
  | integer
  | decimal
  | moment (moment : Moment)
  | merge
  | standard
  | text
deriving DecidableEq

def withoutSign : Text → Text
  | '+' :: rest => rest
  | '-' :: rest => rest
  | word => word

def isDigitOr (c : Char) : Bool := c.isDigit || c = '_'

def isExponent (needsSign : Bool) : Text → Bool
  | [] => true
  | e :: rest =>
      (e = 'e' || e = 'E') && (!needsSign || rest.head? = some '+' || rest.head? = some '-') &&
        withoutSign rest ≠ [] && (withoutSign rest).all Char.isDigit

/-- Whether a word is a decimal: digits with a point, an exponent or both, or a word for what is
infinite or undefined. A decimal that starts with its point has a sign in its exponent. -/
def isDecimal (word : Text) : Bool :=
  let isWord (words : List Text) (word : Text) : Bool := words.contains word
  let body := withoutSign word
  match body with
  | '.' :: rest =>
      let digits := rest.takeWhile isDigitOr
      (digits ≠ [] && isExponent true (rest.drop digits.length)) ||
        isWord ["inf", "Inf", "INF"] rest || (body = word && isWord ["nan", "NaN", "NAN"] rest)
  | c :: _ =>
      if c.isDigit then
        let digits := body.takeWhile isDigitOr
        match body.drop digits.length with
        | '.' :: rest => isExponent false (rest.dropWhile isDigitOr)
        | [] => false
        | rest => isExponent false rest
      else false
  | [] => false

/-- Whether a word is an integer: digits, or digits of another base behind its mark. Lines may stand
between digits, and in place of all of them. -/
def isInteger (word : Text) : Bool :=
  let startsRight := match word with
    | c :: _ => c.isDigit || c = '+' || c = '-'
    | [] => false
  let isRun (isIn : Char → Bool) (run : Text) : Bool := run ≠ [] && run.all isIn
  startsRight && match withoutSign word with
    | '0' :: 'b' :: rest => isRun (fun c => c = '0' || c = '1' || c = '_') rest
    | '0' :: 'o' :: rest => isRun (fun c => ('0' ≤ c && c ≤ '7') || c = '_') rest
    | '0' :: 'x' :: rest => isRun (fun c => (hexDigit? c).isSome || c = '_') rest
    | rest => isRun isDigitOr rest

def lookOf (word : Text) : Look :=
  let isOne (words : List Text) : Bool := words.contains word
  if isOne ["true", "True", "TRUE"] then .truth true
  else if isOne ["false", "False", "FALSE"] then .truth false
  else if isDecimal word then .decimal
  else if isInteger word then .integer
  else if isOne ["<<"] then .merge
  else if isOne ["~", "null", "Null", "NULL", ""] then .nothing
  else if isOne ["="] then .standard
  else match Moment.read? word with
    | some moment => .moment moment
    | none => .text

def digitsIn (base : Nat) (digits : Text) : Except Problem Nat :=
  if digits = [] then .error (.noInteger base)
  else if base = 10 && Value.mostDigits < digits.length then .error (.tooManyDigits digits.length)
  else .ok (digits.foldl (fun n c => n * base + (hexDigit? c).getD 0) 0)

def readInteger (word : Text) : Except Problem Value := do
  let word := word.filter (· ≠ '_')
  let size ← match withoutSign word with
    | '0' :: 'b' :: digits => digitsIn 2 digits
    | '0' :: 'o' :: digits => digitsIn 8 digits
    | '0' :: 'x' :: digits => digitsIn 16 digits
    | digits => digitsIn 10 digits
  return .int (if word.head? = some '-' then -size else size)

def readDecimal (word : Text) : Except Problem Value :=
  let word := (word.filter (· ≠ '_')).map Char.toLower
  let isNegative := word.head? = some '-'
  let body := withoutSign word
  let signed (size : Float) : Except Problem Value := .ok (.float (if isNegative then -size else size))
  if body = ".inf" then signed (1.0 / 0.0)
  else if body = ".nan" then .ok (.float (0.0 / 0.0))
  else match Decimal.toFloat? body with
    | some size => signed size
    | none => .error (.noDecimal body)

def readMoment (moment : Moment) : Except Problem Value :=
  match moment.check with
  | .ok moment => .ok (.moment moment)
  | .error error => .error (.moment error)

def sixtyFourDigit? (c : Char) : Option Nat :=
  if c.isUpper then some (c.toNat - 65)
  else if c.isLower then some (c.toNat - 71)
  else if c.isDigit then some (c.toNat + 4)
  else if c = '+' then some 62
  else if c = '/' then some 63
  else none

/-- The bytes of digits to the base sixty-four, after those that are still open and as many marks of
the end. Other characters do not count. The digits stand in groups of four, where marks may stand for
the last two; these end the text. -/
def bytesOf (digits : List Nat) (marks : Nat) : Text → Except Problem (List UInt8)
  | [] => if digits = [] then .ok [] else .error .malformed
  | c :: rest =>
      if c = '=' then
        match digits with
        | [a, b] =>
            if marks = 0 then bytesOf digits 1 rest else .ok [UInt8.ofNat (a * 4 + b / 16)]
        | [a, b, d] => .ok [UInt8.ofNat (a * 4 + b / 16), UInt8.ofNat (b % 16 * 16 + d / 4)]
        | _ => bytesOf digits marks rest
      else match sixtyFourDigit? c, digits with
        | none, _ => bytesOf digits marks rest
        | some last, [a, b, d] => do
            let later ← bytesOf [] 0 rest
            return UInt8.ofNat (a * 4 + b / 16) :: UInt8.ofNat (b % 16 * 16 + d / 4) ::
              UInt8.ofNat (d % 4 * 64 + last) :: later
        | some digit, digits => bytesOf (digits ++ [digit]) 0 rest

def readBytes (word : Text) : Except Problem Value :=
  if word.all fun c => c.toNat < 0x80 then return .bytes (← bytesOf [] 0 word) else .error .malformed

def readScalar (word : Text) : Except Problem Value :=
  match lookOf word with
  | .nothing => .ok .null
  | .truth value => .ok (.bool value)
  | .integer => readInteger word
  | .decimal => readDecimal word
  | .moment moment => readMoment moment
  | .merge | .standard => .error .malformed
  | .text => .ok (.text word)

end Knotwork.Yaml
