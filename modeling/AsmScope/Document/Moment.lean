import AsmScope.Decimal.Power
import AsmScope.Text.Numeral

/-! Dates and times as a document writes them, and the one text that each is shown as: parts separated by a
blank, six digits of a fraction that is not zero, an offset with a sign. -/

namespace AsmScope.Moment
open AsmScope.Text AsmScope.Decimal

def digits? (count : Nat) (s : List Char) : Option (Nat × List Char) :=
  let found := (s.take count).takeWhile isAsciiDigit
  if found.length = count then some (decimalValue found, s.drop count) else none

def part? (count low high : Nat) (s : List Char) : Option (Nat × List Char) :=
  (digits? count s).bind fun (n, r) => if low ≤ n ∧ n ≤ high then some (n, r) else none

def mark? (c : Char) : List Char → Option (List Char)
  | d :: r => if c = d then some r else none
  | [] => none

def isLeap (year : Nat) : Bool := (year % 4 == 0 && year % 100 != 0) || year % 400 == 0

def daysIn (year month : Nat) : Nat :=
  if month = 2 then (if isLeap year then 29 else 28)
  else if month = 4 ∨ month = 6 ∨ month = 9 ∨ month = 11 then 30
  else 31

def padded (width n : Nat) : String :=
  let shown := toString n
  String.ofList (List.replicate (width - shown.length) '0') ++ shown

structure Date where
  year : Nat
  month : Nat
  day : Nat
  deriving DecidableEq, Repr

structure Clock where
  hour : Nat
  minute : Nat
  second : Nat
  micros : Nat
  deriving DecidableEq, Repr

structure Offset where
  isWest : Bool
  hours : Nat
  minutes : Nat
  deriving DecidableEq, Repr

def Date.text (d : Date) : String := padded 4 d.year ++ "-" ++ padded 2 d.month ++ "-" ++ padded 2 d.day

def Clock.text (c : Clock) : String :=
  padded 2 c.hour ++ ":" ++ padded 2 c.minute ++ ":" ++ padded 2 c.second
    ++ (if c.micros = 0 then "" else "." ++ padded 6 c.micros)

def Offset.text (o : Offset) : String :=
  (if o.isWest && (o.hours + o.minutes != 0) then "-" else "+") ++ padded 2 o.hours ++ ":" ++ padded 2 o.minutes

def Date.isValid (d : Date) : Bool := d.year != 0 && d.day ≤ daysIn d.year d.month

def date? (s : List Char) : Option (Date × List Char) := do
  let (year, r) ← digits? 4 s
  let (month, r) ← (mark? '-' r).bind (part? 2 1 12)
  let (day, r) ← (mark? '-' r).bind (part? 2 1 31)
  return (⟨year, month, day⟩, r)

def micros (s : List Char) : Nat × List Char :=
  match s with
  | '.' :: r =>
    let found := r.takeWhile isAsciiDigit
    if found.isEmpty then (0, s)
    else
      let kept := found.take 6
      (decimalValue kept * tenTo (6 - kept.length), r.drop found.length)
  | _ => (0, s)

def clock? (s : List Char) : Option (Clock × List Char) := do
  let (hour, r) ← part? 2 0 23 s
  let (minute, r) ← (mark? ':' r).bind (part? 2 0 59)
  let (second, r) ← (mark? ':' r).bind (part? 2 0 59)
  let (micros, r) := micros r
  return (⟨hour, minute, second, micros⟩, r)

def offset? (s : List Char) : Option (Offset × List Char) :=
  match s with
  | c :: r =>
    if c = 'Z' ∨ c = 'z' then some (⟨false, 0, 0⟩, r)
    else if c = '+' ∨ c = '-' then do
      let (hours, r) ← part? 2 0 23 r
      let (minutes, r) ← (mark? ':' r).bind (part? 2 0 59)
      return (⟨c = '-', hours, minutes⟩, r)
    else none
  | [] => none

def isDateEnd (c : Char) : Bool := c == 'T' || c == 't' || c == ' '

def dated (d : Date) (r : List Char) : String × List Char :=
  match r with
  | c :: after =>
    if isDateEnd c then
      match clock? after with
      | some (clock, r) =>
        match offset? r with
        | some (offset, r) => (d.text ++ " " ++ clock.text ++ offset.text, r)
        | none => (d.text ++ " " ++ clock.text, r)
      | none => (d.text, r)
    else (d.text, r)
  | [] => (d.text, r)

/-- A text that begins as a date or a time; a date that no calendar has is refused. -/
def read? (s : List Char) : Option (Option (String × List Char)) :=
  match date? s with
  | some (d, r) => some (if d.isValid then some (dated d r) else none)
  | none => (clock? s).map fun (clock, r) => some (clock.text, r)

end AsmScope.Moment
