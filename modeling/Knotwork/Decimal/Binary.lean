/-!
Binary numbers of double width, taken apart.
-/

namespace Knotwork.Decimal

inductive Binary where
  | undefined
  | infinite (negative : Bool)
  | finite (negative : Bool) (mantissa : Nat) (exponent : Int)
deriving DecidableEq

namespace Binary

def ofBits (bits : Nat) : Binary :=
  let negative := bits / Nat.pow 2 63 = 1
  let field := bits / Nat.pow 2 52 % Nat.pow 2 11
  let fraction := bits % Nat.pow 2 52
  if field = 2047 then (if fraction = 0 then infinite negative else undefined)
  else if field = 0 then finite negative fraction (-1074)
  else finite negative (Nat.pow 2 52 + fraction) (Int.ofNat field - 1075)

def ofFloat (value : Float) : Binary := ofBits value.toBits.toNat

def fraction (mantissa : Nat) (exponent : Int) : Nat × Nat :=
  if 0 ≤ exponent then (mantissa * Nat.pow 2 exponent.toNat, 1)
  else (mantissa, Nat.pow 2 (-exponent).toNat)

def truncate? : Binary → Option Int
  | finite negative mantissa exponent =>
      let (numerator, denominator) := fraction mantissa exponent
      let size := Int.ofNat (numerator / denominator)
      some (if negative then -size else size)
  | _ => none

end Binary

end Knotwork.Decimal
