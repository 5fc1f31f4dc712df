import AsmScope.Text.Blank
import AsmScope.Text.Digit
import AsmScope.Text.Escaped
import AsmScope.Text.Word

/-! Numerals. A run of digits has its value in its base. An integer as a person types it may have blanks
around it, a sign, digits of any script, and single low lines between digits. -/

namespace AsmScope.Text

def decimalValue (s : List Char) : Nat :=
  s.foldl (fun value c => value * 10 + (digitValue? c).getD 0) 0

def isHexDigit (c : Char) : Bool := isAsciiDigit c || ('a' ≤ c && c ≤ 'f')

def hexDigitValue (c : Char) : Nat :=
  if isAsciiDigit c then c.toNat - 48 else c.toNat - 87

def hexValue (s : List Char) : Nat :=
  s.foldl (fun value c => value * 16 + hexDigitValue c) 0

def hexDigitsFrom : Nat → Nat → List Char → List Char
  | 0, _, tail => tail
  | fuel + 1, n, tail =>
    if n < 16 then hexDigit n :: tail else hexDigitsFrom fuel (n / 16) (hexDigit (n % 16) :: tail)

def hexText (n : Nat) : String := String.ofList (hexDigitsFrom (n + 1) n [])

/-- The blanks that may stand around a numeral; the information separators may not. -/
def isNumeralSpace (c : Char) : Bool := isBlank c && !(28 ≤ c.toNat && c.toNat ≤ 31)

def bareNumeral (s : List Char) : List Char :=
  ((s.dropWhile isNumeralSpace).reverse.dropWhile isNumeralSpace).reverse

/-- Two low lines never meet, and none stands at an end. -/
def dropLowLines : List Char → Option (List Char)
  | [] => some []
  | '_' :: _ => none
  | [c] => some [c]
  | c :: '_' :: r =>
    match r with
    | [] => none
    | '_' :: _ => none
    | d :: r => (dropLowLines (d :: r)).map (c :: ·)
  | c :: r => (dropLowLines r).map (c :: ·)

def readDigits? (s : List Char) : Option Nat :=
  if s.isEmpty then none
  else (dropLowLines s).bind fun digits =>
    if digits.all isDigit then some (decimalValue digits) else none

def readSigned? : List Char → Option Int
  | '-' :: r => (readDigits? r).map fun n => -(n : Int)
  | '+' :: r => (readDigits? r).map Int.ofNat
  | r => (readDigits? r).map Int.ofNat

def readInteger? (s : String) : Option Int := readSigned? (bareNumeral s.toList)

/-- An integer of more digits than this is not read from a text. -/
def maxDigits : Nat := 4300

def tooManyDigits (digits : Nat) : String :=
  "Exceeds the limit (" ++ toString maxDigits ++ " digits) for integer string conversion: value has "
    ++ toString digits ++ " digits; use sys.set_int_max_str_digits() to increase the limit"

def dropSign : List Char → List Char
  | '-' :: r => r
  | '+' :: r => r
  | r => r

structure LongNumeral where
  digits : Nat
  deriving DecidableEq, Repr

def LongNumeral.message (e : LongNumeral) : String := tooManyDigits e.digits

def longNumeral? (numerals : List (List Char)) : Option LongNumeral :=
  (numerals.find? fun digits => maxDigits < digits.length).map fun digits => ⟨digits.length⟩

def leadingDigits (s : String) : Nat :=
  let body := dropSign (s.toList.dropWhile isNumeralSpace)
  ((dropLowLines (body.takeWhile fun c => isDigit c || c == '_')).getD []).length

end AsmScope.Text
