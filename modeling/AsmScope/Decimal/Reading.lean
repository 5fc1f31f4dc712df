import AsmScope.Decimal.Double
import AsmScope.Text.Numeral

/-! Reading a decimal text: digits, a fraction, an exponent. Every reader gives the value and the rest. -/

namespace AsmScope.Decimal
open AsmScope.Text

def takeDigits (s : List Char) : List Char × List Char :=
  (s.takeWhile isAsciiDigit, s.dropWhile isAsciiDigit)

def fraction? : List Char → Option (List Char × List Char)
  | '.' :: r =>
    let (digits, r) := takeDigits r
    if digits.isEmpty then none else some (digits, r)
  | _ => none

def exponent? : List Char → Option (Int × List Char)
  | mark :: r =>
    if mark = 'e' ∨ mark = 'E' then
      let (negative, r) := match r with
        | '-' :: r => (true, r)
        | '+' :: r => (false, r)
        | r => (false, r)
      let (digits, r) := takeDigits r
      if digits.isEmpty then none
      else
        let size : Int := decimalValue digits
        some (if negative then -size else size, r)
    else none
  | [] => none

def double (negative : Bool) (whole part : List Char) (exponent : Int) : Double :=
  Double.ofDecimal negative (decimalValue (whole ++ part)) (exponent - part.length)

def word? (negative : Bool) (s : List Char) : Option Double :=
  let lower := String.ofList (s.map Char.toLower)
  if lower = "inf" ∨ lower = "infinity" then some (Double.infinity negative)
  else if lower = "nan" then some Double.nan
  else none

def digits? (negative : Bool) (s : List Char) : Option Double :=
  let (whole, r) := takeDigits s
  let (part, r) := match r with
    | '.' :: r => takeDigits r
    | r => ([], r)
  if whole.isEmpty && part.isEmpty then none
  else if r.isEmpty then some (double negative whole part 0)
  else
    match exponent? r with
    | some (exponent, []) => some (double negative whole part exponent)
    | _ => none

def plainDouble? (s : List Char) : Option Double :=
  let (negative, body) := match s with
    | '-' :: r => (true, r)
    | '+' :: r => (false, r)
    | r => (false, r)
  (word? negative body).or (digits? negative body)

/-- A number as a person types it: with blanks around it, or with single low lines inside it. -/
def readDouble? (s : String) : Option Double :=
  (plainDouble? (bareNumeral s.toList)).or ((dropLowLines s.toList).bind plainDouble?)

end AsmScope.Decimal
