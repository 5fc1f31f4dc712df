import AsmScope.Decimal.Reading
import AsmScope.Document.Value

/-! Reading JSON. A key that comes again gives its value to the first place. The words for infinities and no
number are numbers. A control character in a string, a leading zero, an integer of too many digits and anything
after the value are refused. -/

namespace AsmScope.Json
open AsmScope.Text AsmScope.Decimal

def isSpace (c : Char) : Bool := c == ' ' || c == '\t' || c == '\n' || c == '\r'

def skip (s : List Char) : List Char := s.dropWhile isSpace

def hexNibble? (c : Char) : Option Nat :=
  if isAsciiDigit c then some (c.toNat - 48)
  else if 'a' ≤ c ∧ c ≤ 'f' then some (c.toNat - 87)
  else if 'A' ≤ c ∧ c ≤ 'F' then some (c.toNat - 55)
  else none

def unit? (a b c d : Char) : Option Nat := do
  let a ← hexNibble? a
  let b ← hexNibble? b
  let c ← hexNibble? c
  let d ← hexNibble? d
  return ((a * 16 + b) * 16 + c) * 16 + d

def plainEscape? : Char → Option Char
  | '"' => some '"'
  | '\\' => some '\\'
  | '/' => some '/'
  | 'b' => some (Char.ofNat 8)
  | 'f' => some (Char.ofNat 12)
  | 'n' => some '\n'
  | 'r' => some '\r'
  | 't' => some '\t'
  | _ => none

def lone : Char := Char.ofNat 0xFFFD

/-- A first surrogate that waits for its partner stands for nothing when the partner does not come. -/
def flush : Option Nat → List Char → List Char
  | none, s => s
  | some _, s => lone :: s

def stringFrom : Option Nat → List Char → Option (List Char × List Char)
  | _, [] => none
  | high, '"' :: r => some (flush high [], r)
  | high, '\\' :: 'u' :: a :: b :: c :: d :: r =>
    match unit? a b c d with
    | none => none
    | some n =>
      if 0xD800 ≤ n ∧ n < 0xDC00 then
        (stringFrom (some n) r).map fun (s, r) => (flush high s, r)
      else
        match high with
        | some h =>
          if 0xDC00 ≤ n ∧ n < 0xE000 then
            (stringFrom none r).map fun (s, r) =>
              (Char.ofNat (0x10000 + (h - 0xD800) * 0x400 + (n - 0xDC00)) :: s, r)
          else (stringFrom none r).map fun (s, r) => (lone :: Char.ofNat n :: s, r)
        | none =>
          let c := if 0xDC00 ≤ n ∧ n < 0xE000 then lone else Char.ofNat n
          (stringFrom none r).map fun (s, r) => (c :: s, r)
  | high, '\\' :: e :: r =>
    match plainEscape? e with
    | none => none
    | some c => (stringFrom none r).map fun (s, r) => (flush high (c :: s), r)
  | high, c :: r =>
    if c.toNat < 0x20 ∨ c = '\\' then none
    else (stringFrom none r).map fun (s, r) => (flush high (c :: s), r)

def number? (s : List Char) : Option (Value × List Char) :=
  let (negative, body) := match s with
    | '-' :: r => (true, r)
    | r => (false, r)
  let (whole, r) := match body with
    | '0' :: r => (['0'], r)
    | r => takeDigits r
  if whole.isEmpty then none
  else
    let part := fraction? r
    let r := (part.map Prod.snd).getD r
    let exponent := exponent? r
    let r := (exponent.map Prod.snd).getD r
    if part.isNone ∧ exponent.isNone then
      let n : Int := decimalValue whole
      if maxDigits < whole.length then none else some (.int (if negative then -n else n), r)
    else
      some (.double (double negative whole ((part.map Prod.fst).getD []) ((exponent.map Prod.fst).getD 0)), r)

def words : List (String × Value) :=
  [("null", .null), ("true", .bool true), ("false", .bool false), ("NaN", .double Double.nan),
    ("Infinity", .double (Double.infinity false)), ("-Infinity", .double (Double.infinity true))]

def word? (s : List Char) : Option (Value × List Char) :=
  words.findSome? fun (name, v) =>
    if name.toList.isPrefixOf s then some (v, s.drop name.length) else none

mutual
/-- The fuel bounds the number of readings, one at least for each character read. -/
def value? : Nat → List Char → Option (Value × List Char)
  | 0, _ => none
  | fuel + 1, s =>
    match s with
    | '"' :: r => (stringFrom none r).map fun (text, r) => (.string (String.ofList text), r)
    | '[' :: r =>
      match skip r with
      | ']' :: r => some (.list [], r)
      | r => (items? fuel r).map fun (items, r) => (.list items, r)
    | '\x7b' :: r =>
      match skip r with
      | '\x7d' :: r => some (.table [], r)
      | r => (fields? fuel r).map fun (fields, r) => (.table (Fields.ofList fields), r)
    | s => (word? s).orElse fun _ => number? s

def items? : Nat → List Char → Option (List Value × List Char)
  | 0, _ => none
  | fuel + 1, s =>
    match value? fuel s with
    | none => none
    | some (v, r) =>
      match skip r with
      | ']' :: r => some ([v], r)
      | ',' :: r => (items? fuel (skip r)).map fun (rest, r) => (v :: rest, r)
      | _ => none

def fields? : Nat → List Char → Option (List (String × Value) × List Char)
  | 0, _ => none
  | fuel + 1, s =>
    match s with
    | '"' :: r =>
      match stringFrom none r with
      | none => none
      | some (key, r) =>
        match skip r with
        | ':' :: r =>
          match value? fuel (skip r) with
          | none => none
          | some (v, r) =>
            let field := (String.ofList key, v)
            match skip r with
            | '\x7d' :: r => some ([field], r)
            | ',' :: r => (fields? fuel (skip r)).map fun (rest, r) => (field :: rest, r)
            | _ => none
        | _ => none
    | _ => none
end

def readChars? (s : List Char) : Option Value :=
  match value? (s.length + 1) (skip s) with
  | some (v, r) => if (skip r).isEmpty then some v else none
  | none => none

def read? (s : String) : Option Value := readChars? s.toList

end AsmScope.Json
