import AsmScope.Decimal.Power

/-! Floating-point numbers of 64 bits, held as their bits and read exactly: a finite one is a whole mantissa
times a power of two. A quotient of naturals is rounded to the nearest number, and to the even one of two. -/

namespace AsmScope
open Decimal

structure Double where
  bits : UInt64
  deriving DecidableEq, Repr

namespace Double

def ofFields (negative : Bool) (exponent fraction : Nat) : Double :=
  ⟨UInt64.ofNat ((if negative then twoTo 63 else 0) + exponent * twoTo 52 + fraction)⟩

def isNegative (x : Double) : Bool := twoTo 63 ≤ x.bits.toNat

def exponent (x : Double) : Nat := x.bits.toNat / twoTo 52 % 2048

def fraction (x : Double) : Nat := x.bits.toNat % twoTo 52

def isFinite (x : Double) : Bool := x.exponent < 2047

def isNan (x : Double) : Bool := !x.isFinite && x.fraction != 0

def isZero (x : Double) : Bool := x.exponent == 0 && x.fraction == 0

def mantissa (x : Double) : Nat :=
  if x.exponent = 0 then x.fraction else twoTo 52 + x.fraction

def power (x : Double) : Int :=
  if x.exponent = 0 then -1074 else (x.exponent : Int) - 1075

def zero (negative : Bool) : Double := ofFields negative 0 0

def infinity (negative : Bool) : Double := ofFields negative 2047 0

def nan : Double := ofFields false 2047 (twoTo 51)

def ratio (x : Double) : Nat × Nat :=
  (x.mantissa * twoTo x.power.toNat, twoTo (-x.power).toNat)

/-- The quotient rounded to the nearest natural, a half to the even one. -/
def roundDiv (num den : Nat) : Nat :=
  let whole := num / den
  let rest := 2 * (num % den)
  if rest < den then whole else if den < rest then whole + 1 else whole + whole % 2

/-- The exponent `e` of a positive quotient: it lies from `2 ^ e` up to, not including, `2 ^ (e + 1)`. -/
def binaryExponent (num den : Nat) : Int :=
  let guess : Int := (Nat.log2 num : Int) - Nat.log2 den
  if num * twoTo (-guess).toNat < den * twoTo guess.toNat then guess - 1 else guess

def ofRatio (negative : Bool) (num den : Nat) : Double :=
  if num = 0 then zero negative
  else
    let scale := max (binaryExponent num den - 52) (-1074)
    let rounded := roundDiv (num * twoTo (-scale).toNat) (den * twoTo scale.toNat)
    let (whole, scale) := if rounded = twoTo 53 then (twoTo 52, scale + 1) else (rounded, scale)
    if whole < twoTo 52 then ofFields negative 0 whole
    else
      let field := (scale + 1075).toNat
      if 2047 ≤ field then infinity negative else ofFields negative field (whole - twoTo 52)

def digitCount (n : Nat) : Nat := (Nat.toDigits 10 n).length

/-- `digits * 10 ^ scale`. Sizes far outside the range are settled without their powers. -/
def ofDecimal (negative : Bool) (digits : Nat) (scale : Int) : Double :=
  if digits = 0 then zero negative
  else if 310 < digitCount digits + scale then infinity negative
  else if digitCount digits + scale < -330 then zero negative
  else ofRatio negative (digits * tenTo scale.toNat) (tenTo (-scale).toNat)

def ofInt (n : Int) : Double := ofRatio (n < 0) n.natAbs 1

def toInt? (x : Double) : Option Int :=
  if !x.isFinite then none
  else
    let (num, den) := x.ratio
    if num % den = 0 then some (if x.isNegative then -((num / den : Nat) : Int) else (num / den : Nat))
    else none

end Double
end AsmScope
