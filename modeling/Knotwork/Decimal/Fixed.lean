import Knotwork.Decimal.Shortest

/-!
Decimals of a chosen length: a fixed number of places behind the point, or a fixed number of digits
in all. A half goes to the even neighbour.
-/

namespace Knotwork.Decimal

def roundDiv (numerator denominator : Nat) : Nat :=
  let floor := numerator / denominator
  let excess := 2 * (numerator % denominator)
  if excess < denominator || (excess == denominator && floor % 2 == 0) then floor else floor + 1

def atLeast (count : Nat) (body : Text) : Text := List.replicate (count - body.length) '0' ++ body

def fixed (numerator denominator places : Nat) : Text :=
  let digits :=
    atLeast (places + 1) (Text.ofNat (roundDiv (numerator * Nat.pow 10 places) denominator))
  let whole := digits.length - places
  digits.take whole ++ if places = 0 then [] else '.' :: digits.drop whole

def inUnits (numerator denominator : Nat) (exponent : Int) : Nat :=
  if 0 ≤ exponent then roundDiv numerator (denominator * Nat.pow 10 exponent.toNat)
  else roundDiv (numerator * Nat.pow 10 (-exponent).toNat) denominator

def leading (numerator denominator count : Nat) : Text × Int :=
  if numerator = 0 then (List.replicate count '0', 0)
  else
    let magnitude := Rounding.magnitude ⟨0, numerator, 0, denominator, false⟩
    let digits := Text.ofNat (inUnits numerator denominator (magnitude - (Int.ofNat count - 1)))
    if digits.length = count then (digits, magnitude) else (digits.take count, magnitude + 1)

def withExponent (numerator denominator places : Nat) : Text :=
  let (digits, exponent) := leading numerator denominator (places + 1)
  scientific digits exponent

def withoutZeros (body : Text) : Text :=
  if body.contains '.' then
    let kept := body.reverse.dropWhile (· = '0')
    (if kept.head? = some '.' then kept.drop 1 else kept).reverse
  else body

def general (numerator denominator count : Nat) (keepZeros : Bool) : Text :=
  let count := max count 1
  let (digits, exponent) := leading numerator denominator count
  let trim (body : Text) : Text := if keepZeros then body else withoutZeros body
  if -4 ≤ exponent && exponent < count then
    trim (fixed numerator denominator (Int.ofNat count - 1 - exponent).toNat)
  else
    let body := scientific digits exponent
    trim (body.takeWhile (· ≠ 'e')) ++ body.dropWhile (· ≠ 'e')

end Knotwork.Decimal
