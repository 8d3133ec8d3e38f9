import Knotwork.Decimal.Binary
import Knotwork.Text.Basic

/-!
Shortest decimals: the fewest digits that read back as the same binary number, and of those the
nearest to it.
-/

namespace Knotwork.Decimal

/-- A positive number as a fraction, with the ends of the interval of numbers that round to it, over
the same denominator. The ends belong to the interval if `closed`. -/
structure Rounding where
  low : Nat
  value : Nat
  high : Nat
  denominator : Nat
  closed : Bool

/-- A positive number `mantissa * 2 ^ exponent`. The gap below a power of two is half as wide, except
at the least exponent. -/
def Rounding.ofBinary (mantissa : Nat) (exponent : Int) (narrowBelow : Bool) : Rounding :=
  let below := if narrowBelow then 1 else 2
  let scale : Nat := if 0 ≤ exponent then Nat.pow 2 exponent.toNat else 1
  { low := (4 * mantissa - below) * scale
    value := 4 * mantissa * scale
    high := (4 * mantissa + 2) * scale
    denominator := 4 * if 0 ≤ exponent then 1 else Nat.pow 2 (-exponent).toNat
    closed := mantissa % 2 = 0 }

structure Digits where
  digits : Nat
  exponent : Int

def Digits.crossed (d : Digits) (numerator denominator : Nat) : Nat × Nat :=
  if 0 ≤ d.exponent then (d.digits * Nat.pow 10 d.exponent.toNat * denominator, numerator)
  else (d.digits * denominator, numerator * Nat.pow 10 (-d.exponent).toNat)

def Rounding.accepts (r : Rounding) (d : Digits) : Bool :=
  let (left, low) := d.crossed r.low r.denominator
  let (_, high) := d.crossed r.high r.denominator
  (low < left && left < high) || (r.closed && (left == low || left == high))

def Rounding.magnitude (r : Rounding) : Int :=
  if r.denominator ≤ r.value then ((Nat.toDigits 10 (r.value / r.denominator)).length : Int) - 1
  else
    let zeros := ((List.range 400).find? fun n =>
      r.denominator ≤ r.value * Nat.pow 10 (n + 1)).getD 400
    (-1 : Int) - zeros

def Rounding.nearest? (r : Rounding) (length : Nat) : Option Digits :=
  let exponent := r.magnitude - (length : Int) + 1
  let (scaled, unit) :=
    if 0 ≤ exponent then (r.value, r.denominator * Nat.pow 10 exponent.toNat)
    else (r.value * Nat.pow 10 (-exponent).toNat, r.denominator)
  let floor : Digits := ⟨scaled / unit, exponent⟩
  let ceiling : Digits := ⟨scaled / unit + 1, exponent⟩
  let excess := scaled % unit
  let floorFirst := 2 * excess < unit || (2 * excess == unit && floor.digits % 2 == 0)
  (if floorFirst then [floor, ceiling] else [ceiling, floor]).find? r.accepts

def Rounding.shortest (r : Rounding) : Digits :=
  ((List.range 17).findSome? fun n => r.nearest? (n + 1)).getD ⟨0, 0⟩

def positional (digits : Text) (places : Int) : Text :=
  if places ≤ 0 then "0." ++ List.replicate (-places).toNat '0' ++ digits
  else if places.toNat < digits.length then
    digits.take places.toNat ++ ['.'] ++ digits.drop places.toNat
  else digits ++ List.replicate (places.toNat - digits.length) '0' ++ ".0"

def scientific (digits : Text) (exponent : Int) : Text :=
  let size := Text.ofNat exponent.natAbs
  digits.take 1 ++ (if digits.length = 1 then [] else '.' :: digits.drop 1) ++
    (if exponent < 0 then "e-" else "e+") ++ (if size.length < 2 then '0' :: size else size)

/-- A decimal is written by position from a ten-thousandth up to sixteen digits before the point. -/
def render (d : Digits) : Text :=
  let digits := ((Text.ofNat d.digits).reverse.dropWhile (· = '0')).reverse
  let places := ((Text.ofNat d.digits).length : Int) + d.exponent
  if -4 < places && places ≤ 16 then positional digits places
  else scientific digits (places - 1)

def ofFloat (value : Float) : Text :=
  match Binary.ofFloat value with
  | .undefined => "nan"
  | .infinite negative => signed negative "inf"
  | .finite negative 0 _ => signed negative "0.0"
  | .finite negative mantissa exponent =>
      signed negative (render (Rounding.ofBinary mantissa exponent
        (mantissa = Nat.pow 2 52 && -1074 < exponent)).shortest)
where
  signed (negative : Bool) (body : Text) : Text := if negative then '-' :: body else body

def toFloat? (source : Text) : Option Float :=
  let (negative, body) := match source with
    | '-' :: rest => (true, rest)
    | '+' :: rest => (false, rest)
    | _ => (false, source)
  let whole := body.takeWhile Char.isDigit
  let rest := body.dropWhile Char.isDigit
  let (decimals, rest) := match rest with
    | '.' :: more => (more.takeWhile Char.isDigit, more.dropWhile Char.isDigit)
    | _ => ([], rest)
  let exponent? : Option Int := match rest with
    | [] => some 0
    | e :: '-' :: more => if e = 'e' || e = 'E' then (natural? more).map fun n => -n else none
    | e :: '+' :: more => if e = 'e' || e = 'E' then (natural? more).map fun n => n else none
    | e :: more => if e = 'e' || e = 'E' then (natural? more).map fun n => n else none
  match natural? (whole ++ decimals), exponent? with
  | some mantissa, some exponent =>
      let shift := exponent - decimals.length
      let size := scaled mantissa shift
      some (if negative then -size else size)
  | _, _ => none
where
  scaled (mantissa : Nat) (shift : Int) : Float :=
    let magnitude := shift + (Text.ofNat mantissa).length
    if mantissa = 0 || magnitude < -400 then 0
    else if 400 < magnitude then 1 / 0
    else Float.ofScientific mantissa (shift < 0) shift.natAbs
  natural? (digits : Text) : Option Nat :=
    if digits = [] || !digits.all Char.isDigit then none
    else some (digits.foldl (fun n c => n * 10 + (c.toNat - 48)) 0)

end Knotwork.Decimal
