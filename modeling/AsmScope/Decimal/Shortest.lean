import AsmScope.Decimal.Double

/-! The decimal text of a floating-point number: the fewest digits that read back as the same number, and of
two such texts the nearer one. It is positional from a ten-thousandth up to, not including, ten to the
sixteenth, and always has a fractional part or an exponent. -/

namespace AsmScope.Double
open Decimal

/-- How many places the point of a positive quotient stands right of its first digit; the fuel bounds the
places of a small one. -/
def pointFrom : Nat → Nat → Nat → Int
  | 0, _, _ => 0
  | fuel + 1, num, den => if den ≤ num then digitCount (num / den) else pointFrom fuel (num * 10) den - 1

/-- The two neighbours of the quotient on the grid of `count` digits, those that read back, nearer one first. -/
def candidates (x : Double) (num den : Nat) (point : Int) (count : Nat) : List Nat :=
  let places := (count : Int) - point
  let num := num * tenTo places.toNat
  let den := den * tenTo (-places).toNat
  let low := num / den
  let rest := 2 * (num % den)
  let both := if rest < den ∨ (rest = den ∧ low % 2 = 0) then [low, low + 1] else [low + 1, low]
  both.filter fun digits => digits ≠ 0 ∧ ofDecimal x.isNegative digits (-places) = x

def shortestFrom (x : Double) (num den : Nat) (point : Int) : Nat → Nat → Nat × Int
  | 0, count => (num * tenTo ((count : Int) - point).toNat / den, point - count)
  | fuel + 1, count =>
    match candidates x num den point count with
    | digits :: _ => (digits, point - count)
    | [] => shortestFrom x num den point fuel (count + 1)

def shortest (x : Double) : Nat × Int :=
  let (num, den) := x.ratio
  shortestFrom x num den (pointFrom 400 num den) 17 1

def positionalFrom : Int := -4

def positionalBelow : Int := 16

def dropZerosEnd (s : List Char) : List Char := (s.reverse.dropWhile (· == '0')).reverse

def layDigits (digits : List Char) (point : Int) : List Char :=
  let exponent := point - 1
  if positionalFrom ≤ exponent ∧ exponent < positionalBelow then
    if point ≤ 0 then '0' :: '.' :: (List.replicate (-point).toNat '0' ++ digits)
    else
      let whole := digits.take point.toNat
      let part := digits.drop point.toNat
      whole ++ List.replicate (point.toNat - digits.length) '0' ++ '.' :: (if part.isEmpty then ['0'] else part)
  else
    let part := digits.drop 1
    let size := (toString exponent.natAbs).toList
    digits.take 1 ++ (if part.isEmpty then [] else '.' :: part)
      ++ 'e' :: (if exponent < 0 then '-' else '+') :: ((if size.length < 2 then ['0'] else []) ++ size)

def text (x : Double) : String :=
  if x.isNan then "nan"
  else
    let sign := if x.isNegative then "-" else ""
    if !x.isFinite then sign ++ "inf"
    else if x.isZero then sign ++ "0.0"
    else
      let (digits, scale) := x.shortest
      let shown := Nat.toDigits 10 digits
      sign ++ String.ofList (layDigits (dropZerosEnd shown) (shown.length + scale))

end AsmScope.Double
