import AsmScope.Decimal.Reading
import AsmScope.Document.Value
import AsmScope.Path
import AsmScope.Settings.Problem

/-! Reading single values of settings, leniently. A truth value may be a word or a number, a number may be a
text, a path is a text. A field that is absent has its fallback. -/

namespace AsmScope.Settings
open AsmScope.Text

def falseWords : List String := ["0", "off", "f", "false", "n", "no"]

def trueWords : List String := ["1", "on", "t", "true", "y", "yes"]

def lowered (s : String) : String := String.ofList (s.toList.map Char.toLower)

def boolOfInt (n : Int) : Validated Bool :=
  if n = 0 then .valid false
  else if n = 1 then .valid true
  else if -9223372036854775808 ≤ n ∧ n ≤ 9223372036854775807 then .fault .unreadableBool
  else .fault .notBool

/-- A number counts as whole if it has no fraction and fits into a machine word. -/
def intOfDouble (x : Double) : Validated Int :=
  if x.isFinite then
    match x.toInt? with
    | none => .fault .fractionalInt
    | some n => if n.natAbs < 9223372036854775808 then .valid n else .fault .longInt
  else .fault .infinite

def bool : Value → Validated Bool
  | .bool b => .valid b
  | .int n => boolOfInt n
  | .double x =>
    match intOfDouble x with
    | .valid n => boolOfInt n
    | .invalid _ => .fault .notBool
  | .string s =>
    if falseWords.contains (lowered s) then .valid false
    else if trueWords.contains (lowered s) then .valid true
    else .fault .unreadableBool
  | _ => .fault .notBool

/-- Leading zeros go with the low lines after them. A zero stays before a point, and where nothing follows. -/
def afterZeros (last : Char) : List Char → Option (List Char)
  | [] => some [last]
  | c :: r =>
    if c = '0' ∨ c = '_' then afterZeros c r
    else if '1' ≤ c ∧ c ≤ '9' then some (c :: r)
    else if c = '.' then some (last :: c :: r)
    else none

def dropZeros : List Char → Option (List Char)
  | '0' :: r => afterZeros '0' r
  | c :: r => if c = '-' || isAsciiDigit c then some (c :: r) else none
  | [] => none

def dropPlus : List Char → Option (List Char)
  | '+' :: '-' :: _ => none
  | '+' :: r => some r
  | r => some r

def dropZeroPart (s : List Char) : List Char :=
  match s.dropWhile (· != '.') with
  | '.' :: '0' :: r => if r.all (· == '0') then s.takeWhile (· != '.') else s
  | _ => s

def bareWhole (s : List Char) : Option (List Char) := do
  let s ← dropPlus (bareNumeral s)
  let s ← dropZeros s
  dropLowLines (dropZeroPart s)

def intOfText (s : List Char) : Validated Int :=
  let (negative, digits) := match s with
    | '-' :: r => (true, r)
    | r => (false, r)
  let run := digits.takeWhile isAsciiDigit
  if digits = ['0'] then .valid 0
  else if run.isEmpty || run.head? = some '0' then .fault .unreadableInt
  else if maxDigits < run.length + (if negative then 1 else 0) then .fault .longInt
  else if run.length < digits.length then .fault .unreadableInt
  else .valid (if negative then -(decimalValue run : Int) else decimalValue run)

def int : Value → Validated Int
  | .int n => .valid n
  | .bool b => .valid (if b then 1 else 0)
  | .double x => intOfDouble x
  | .string s =>
    match bareWhole s.toList with
    | some text => intOfText text
    | none => .fault .unreadableInt
  | _ => .fault .notInt

def above (bound : Nat) (v : Value) : Validated Nat :=
  (int v).andThen fun n => if (bound : Int) < n then .valid n.toNat else .fault (.notAbove bound)

def atLeast (bound : Nat) (v : Value) : Validated Nat :=
  (int v).andThen fun n => if (bound : Int) ≤ n then .valid n.toNat else .fault (.below bound)

def doubleOfInt (n : Int) : Validated Double :=
  if (Double.ofInt n).isFinite then .valid (Double.ofInt n) else .fault .notNumber

def double : Value → Validated Double
  | .double x => .valid x
  | .int n => doubleOfInt n
  | .bool b => .valid (Double.ofInt (if b then 1 else 0))
  | .string s =>
    match Decimal.readDouble? s with
    | some x => .valid x
    | none => .fault .unreadableNumber
  | _ => .fault .notNumber

def string : Value → Validated String
  | .string s => .valid s
  | _ => .fault .notString

def path : Value → Validated String
  | .string s => .valid (Path.normal s)
  | _ => .fault .notPath

def optional {α : Type} (read : Value → Validated α) : Value → Validated (Option α)
  | .null => .valid none
  | v => (read v).map some

def list {α : Type} (read : Value → Validated α) : Value → Validated (List α)
  | .list items => .all read 0 items
  | _ => .fault .notList

def record {α : Type} (name : String) (read : Fields → Validated α) : Value → Validated α
  | .table fields => read fields
  | _ => .fault (.notRecord name)

def fieldOr {α : Type} (fields : Fields) (key : String) (read : Value → Validated α) (fallback : α) :
    Validated α :=
  match Fields.get? fields key with
  | some v => (read v).under key
  | none => .valid fallback

def required {α : Type} (fields : Fields) (key : String) (read : Value → Validated α) : Validated α :=
  match Fields.get? fields key with
  | some v => (read v).under key
  | none => .invalid [⟨[key], .missing⟩]

end AsmScope.Settings
