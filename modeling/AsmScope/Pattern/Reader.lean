import AsmScope.Pattern.Basic
import AsmScope.Text.Numeral

/-! Reading a pattern as it is written in settings: characters, escapes, a point, classes, groups,
alternatives, repetition, and the marks for the beginning, the end and a word boundary.
What cannot be read matches nothing. -/

namespace AsmScope.Pattern
open AsmScope.Text CharClass

def literal : List Char → Pattern
  | [] => .empty
  | [c] => .char (single c)
  | c :: r => .seq (.char (single c)) (literal r)

def letterClass? : Char → Option CharClass
  | 'w' => some .word
  | 'W' => some (.except [.word])
  | 'd' => some .digit
  | 'D' => some (.except [.digit])
  | 's' => some .blank
  | 'S' => some (.except [.blank])
  | _ => none

def escapedChar : Char → Char
  | 'n' => '\n'
  | 'r' => '\r'
  | 't' => '\t'
  | 'f' => Char.ofNat 12
  | 'v' => Char.ofNat 11
  | 'a' => Char.ofNat 7
  | c => c

def member? : List Char → Option (CharClass × List Char)
  | '\\' :: c :: r =>
    match letterClass? c with
    | some k => some (k, r)
    | none => some (single (if c = 'b' then Char.ofNat 8 else escapedChar c), r)
  | c :: r => some (single c, r)
  | [] => none

def lone? : CharClass → Option Char
  | .range low high => if low = high then some low else none
  | _ => none

/-- The members up to the closing bracket; one that stands first is a member. -/
def members? : Nat → Bool → List Char → Option (List CharClass × List Char)
  | 0, _, _ => none
  | fuel + 1, first, s =>
    match s with
    | ']' :: r =>
      if first then (members? fuel false r).map fun (ks, r) => (single ']' :: ks, r) else some ([], r)
    | s =>
      match member? s with
      | none => none
      | some (k, '-' :: ']' :: r) => (members? fuel false ('-' :: ']' :: r)).map fun (ks, r) => (k :: ks, r)
      | some (k, '-' :: r) =>
        match lone? k, member? r with
        | some low, some (high, r) =>
          (lone? high).bind fun high =>
            (members? fuel false r).map fun (ks, r) => (.range low high :: ks, r)
        | _, _ => none
      | some (k, r) => (members? fuel false r).map fun (ks, r) => (k :: ks, r)

def class? (s : List Char) : Option (CharClass × List Char) :=
  match s with
  | '^' :: r => (members? (r.length + 1) true r).map fun (ks, r) => (.except ks, r)
  | r => (members? (r.length + 1) true r).map fun (ks, r) => (.any ks, r)

def times (p : Pattern) : Nat → Pattern
  | 0 => .empty
  | n + 1 => .seq p (times p n)

def atMost (p : Pattern) : Nat → Pattern
  | 0 => .empty
  | n + 1 => .alt .empty (.seq p (atMost p n))

def between (p : Pattern) (low : Nat) : Option Nat → Pattern
  | some high => .seq (times p low) (atMost p (high - low))
  | none => .seq (times p low) (.star p)

def bounds? (s : List Char) : Option ((Nat × Option Nat) × List Char) :=
  let low := s.takeWhile isAsciiDigit
  match s.dropWhile isAsciiDigit with
  | '\x7d' :: r => if low.isEmpty then none else some ((decimalValue low, some (decimalValue low)), r)
  | ',' :: r =>
    let high := r.takeWhile isAsciiDigit
    match r.dropWhile isAsciiDigit with
    | '\x7d' :: r =>
      some ((decimalValue low, if high.isEmpty then none else some (decimalValue high)), r)
    | _ => none
  | _ => none

/-- A repetition may be marked as reluctant, which changes no answer. -/
def dropReluctant : List Char → List Char
  | '?' :: r => r
  | r => r

def repeated (p : Pattern) (s : List Char) : Pattern × List Char :=
  match s with
  | '*' :: r => (.star p, dropReluctant r)
  | '+' :: r => (.seq p (.star p), dropReluctant r)
  | '?' :: r => (.alt p .empty, dropReluctant r)
  | '\x7b' :: r =>
    match bounds? r with
    | some ((low, high), r) => (between p low high, dropReluctant r)
    | none => (p, s)
  | _ => (p, s)

def escape? : List Char → Option (Pattern × List Char)
  | 'b' :: r => some (.boundary true, r)
  | 'B' :: r => some (.boundary false, r)
  | c :: r => some (.char ((letterClass? c).getD (single (escapedChar c))), r)
  | [] => none

/-- A group that is not numbered is a group all the same. -/
def dropGroupMark : List Char → List Char
  | '?' :: ':' :: r => r
  | r => r

mutual
/-- The fuel bounds the number of readings, two at most for each character. -/
def alternatives? : Nat → List Char → Option (Pattern × List Char)
  | 0, _ => none
  | fuel + 1, s =>
    match sequence? fuel s with
    | some (p, '|' :: r) => (alternatives? fuel r).map fun (q, r) => (.alt p q, r)
    | answer => answer

def sequence? : Nat → List Char → Option (Pattern × List Char)
  | 0, _ => none
  | fuel + 1, s =>
    match s with
    | [] => some (.empty, [])
    | '|' :: _ => some (.empty, s)
    | ')' :: _ => some (.empty, s)
    | s =>
      match atom? fuel s with
      | none => none
      | some (p, r) =>
        let (p, r) := repeated p r
        (sequence? fuel r).map fun (q, r) => (.seq p q, r)

def atom? : Nat → List Char → Option (Pattern × List Char)
  | 0, _ => none
  | fuel + 1, s =>
    match s with
    | '(' :: r =>
      match alternatives? fuel (dropGroupMark r) with
      | some (p, ')' :: r) => some (p, r)
      | _ => none
    | '[' :: r => (class? r).map fun (k, r) => (.char k, r)
    | '.' :: r => some (.char point, r)
    | '^' :: r => some (.opening, r)
    | '$' :: r => some (.closing, r)
    | '\\' :: r => escape? r
    | c :: r => some (.char (single c), r)
    | [] => none
end

def readChars (s : List Char) : Pattern :=
  match alternatives? (3 * s.length + 3) s with
  | some (p, []) => p
  | _ => .never

def read (s : String) : Pattern := readChars s.toList

end AsmScope.Pattern
