/-
Binary64 numbers as their bits: the value that a decimal denotes, rounded to nearest with ties to even,
in exact natural-number arithmetic.
-/
import NestedQuery.Text.Hex

namespace NestedQuery

/-- A binary64 number, given by its sixty-four bits. -/
structure Double where
  bits : UInt64
  deriving DecidableEq

namespace Double

/-! ## The parts of a number -/

def isNegative (x : Double) : Bool := Nat.pow 2 63 ≤ x.bits.toNat

/-- The eleven exponent bits. -/
def exponentField (x : Double) : Nat := x.bits.toNat / Nat.pow 2 52 % Nat.pow 2 11

/-- The fifty-two fraction bits. -/
def fractionField (x : Double) : Nat := x.bits.toNat % Nat.pow 2 52

def isFinite (x : Double) : Bool := x.exponentField ≠ 2047

/-- The integer `m` and exponent `e` of a finite number of size `m · 2^e`. -/
def mantissaExponent (x : Double) : Nat × Int :=
  if x.exponentField = 0 then (x.fractionField, -1074)
  else (Nat.pow 2 52 + x.fractionField, (x.exponentField : Int) - 1075)

/-- The bits in hexadecimal, sixteen digits after `0x`. -/
def hex (x : Double) : String := "0x" ++ String.ofList (Text.hexDigits 16 x.bits.toNat)

/-! ## From a ratio -/

/-- A quotient rounded to the nearest integer, a tie going to the even neighbour. -/
def roundDiv (num den : Nat) : Nat :=
  let q := num / den
  let r := num % den
  if den < 2 * r || (2 * r == den && q % 2 == 1) then q + 1 else q

/-- Numerator and denominator of `num / den / 2^e`. -/
def scaleDown (num den : Nat) (e : Int) : Nat × Nat :=
  if 0 ≤ e then (num, den * Nat.pow 2 e.toNat) else (num * Nat.pow 2 (-e).toNat, den)

/-- The exponent at which a positive ratio has a fifty-three bit quotient, or the least exponent there is. -/
def unitExponent (num den : Nat) : Int :=
  let e : Int := (num.log2 : Int) - den.log2 - 52
  let (n, d) := scaleDown num den e
  max (if n / d < Nat.pow 2 52 then e - 1 else e) (-1074)

/-- The double nearest to a positive ratio; `none` when it is too large for one. -/
def ofRatio? (negative : Bool) (num den : Nat) : Option Double :=
  let e := unitExponent num den
  let (n, d) := scaleDown num den e
  let magnitude := (e + 1074).toNat * Nat.pow 2 52 + roundDiv n d
  if 2047 * Nat.pow 2 52 ≤ magnitude then none
  else some ⟨UInt64.ofNat (if negative then Nat.pow 2 63 + magnitude else magnitude)⟩

def zero (negative : Bool) : Double := ⟨if negative then 0x8000000000000000 else 0⟩

/-- The number of decimal digits of a positive integer. -/
def decimalLength (n : Nat) : Nat := (Nat.toDigits 10 n).length

/-- The double nearest to `± digits · 10^exponent`; `none` when it is too large for one. -/
def ofDecimal? (negative : Bool) (digits : Nat) (exponent : Int) : Option Double :=
  if digits = 0 then some (zero negative)
  else
    let size := exponent + decimalLength digits
    if 310 < size then none
    else if size < -330 then some (zero negative)
    else if 0 ≤ exponent then ofRatio? negative (digits * Nat.pow 10 exponent.toNat) 1
    else ofRatio? negative digits (Nat.pow 10 (-exponent).toNat)

end Double

end NestedQuery
