import AsmScope.Decimal.Reading
import AsmScope.Document.Moment
import AsmScope.Document.Value

/-! The values and keys of a TOML text. Every reader gives what it read and the rest of the text. -/

namespace AsmScope.Toml
open AsmScope.Text AsmScope.Decimal

abbrev Key := List String

def isSpace (c : Char) : Bool := c == ' ' || c == '\t'

def skip (s : List Char) : List Char := s.dropWhile isSpace

def isSpaceOrLine (c : Char) : Bool := isSpace c || c == '\n'

def isForbidden (c : Char) : Bool := (c.toNat < 32 && c != '\t') || c.toNat == 127

def skipComment (s : List Char) : Option (List Char) :=
  match s with
  | '#' :: r =>
    if (r.takeWhile (· != '\n')).any isForbidden then none else some (r.dropWhile (· != '\n'))
  | _ => some s

def skipLines : Nat → List Char → Option (List Char)
  | 0, s => some s
  | fuel + 1, s =>
    let r := s.dropWhile isSpaceOrLine
    match r with
    | '#' :: _ => (skipComment r).bind (skipLines fuel)
    | _ => some r

def skipAll (s : List Char) : Option (List Char) := skipLines (s.length + 1) s

def isBareChar (c : Char) : Bool := isAsciiLetter c || isAsciiDigit c || c == '-' || c == '_'

def hexNibble? (c : Char) : Option Nat :=
  if isHexDigit c then some (hexDigitValue c)
  else if 'A' ≤ c ∧ c ≤ 'F' then some (c.toNat - 55)
  else none

def codePoint? (count : Nat) (s : List Char) : Option (Char × List Char) :=
  let found := s.take count
  if found.length = count then
    (found.mapM hexNibble?).bind fun digits =>
      let n := digits.foldl (fun n d => n * 16 + d) 0
      if n < 0xD800 ∨ (0xE000 ≤ n ∧ n < 0x110000) then some (Char.ofNat n, s.drop count) else none
  else none

def plainEscape? : Char → Option Char
  | 'b' => some (Char.ofNat 8)
  | 't' => some '\t'
  | 'n' => some '\n'
  | 'f' => some (Char.ofNat 12)
  | 'r' => some '\r'
  | '"' => some '"'
  | '\\' => some '\\'
  | _ => none

def escape? : List Char → Option (Char × List Char)
  | 'u' :: r => codePoint? 4 r
  | 'U' :: r => codePoint? 8 r
  | c :: r => (plainEscape? c).map (·, r)
  | [] => none

def basicFrom : Nat → List Char → Option (List Char × List Char)
  | 0, _ => none
  | _, [] => none
  | _, '"' :: r => some ([], r)
  | fuel + 1, '\\' :: r =>
    (escape? r).bind fun (c, r) => (basicFrom fuel r).map fun (s, r) => (c :: s, r)
  | fuel + 1, c :: r =>
    if isForbidden c then none else (basicFrom fuel r).map fun (s, r) => (c :: s, r)

def basic? (s : List Char) : Option (List Char × List Char) := basicFrom (s.length + 1) s

/-- A backslash before the end of a line takes away the line end and all blanks after it. -/
def lineEscape? (s : List Char) : Option (List Char) :=
  match skip s with
  | [] => some []
  | '\n' :: r => some (r.dropWhile isSpaceOrLine)
  | _ => none

def isLineEscape : List Char → Bool
  | c :: _ => isSpaceOrLine c
  | [] => false

/-- One or two quotes before the closing three belong to the string. -/
def extraQuotes (quote : Char) (r : List Char) : List Char × List Char :=
  let extra := (r.takeWhile (· == quote)).take 2
  (extra, r.drop extra.length)

def multiBasicFrom : Nat → List Char → Option (List Char × List Char)
  | 0, _ => none
  | _, [] => none
  | _, '"' :: '"' :: '"' :: r => some (extraQuotes '"' r)
  | fuel + 1, '\\' :: r =>
    if isLineEscape r then (lineEscape? r).bind (multiBasicFrom fuel)
    else (escape? r).bind fun (c, r) => (multiBasicFrom fuel r).map fun (s, r) => (c :: s, r)
  | fuel + 1, c :: r =>
    if isForbidden c && c != '\n' then none else (multiBasicFrom fuel r).map fun (s, r) => (c :: s, r)

def literal? (s : List Char) : Option (List Char × List Char) :=
  let inside := s.takeWhile (· != '\'')
  match s.dropWhile (· != '\'') with
  | '\'' :: r => if inside.any isForbidden then none else some (inside, r)
  | _ => none

def multiLiteralFrom : List Char → Option (List Char × List Char)
  | [] => none
  | '\'' :: '\'' :: '\'' :: r => some (extraQuotes '\'' r)
  | c :: r =>
    if isForbidden c && c != '\n' then none else (multiLiteralFrom r).map fun (s, r) => (c :: s, r)

def dropFirstLine : List Char → List Char
  | '\n' :: r => r
  | r => r

def string? (s : List Char) : Option (List Char × List Char) :=
  match s with
  | '"' :: '"' :: '"' :: r => multiBasicFrom (r.length + 1) (dropFirstLine r)
  | '"' :: r => basic? r
  | '\'' :: '\'' :: '\'' :: r => multiLiteralFrom (dropFirstLine r)
  | '\'' :: r => literal? r
  | _ => none

def keyPart? (s : List Char) : Option (String × List Char) :=
  match s with
  | '"' :: r => (basic? r).map fun (name, r) => (String.ofList name, r)
  | '\'' :: r => (literal? r).map fun (name, r) => (String.ofList name, r)
  | r =>
    let name := r.takeWhile isBareChar
    if name.isEmpty then none else some (String.ofList name, r.dropWhile isBareChar)

def keyFrom : Nat → List Char → Option (Key × List Char)
  | 0, _ => none
  | fuel + 1, s =>
    (keyPart? s).bind fun (part, r) =>
      match skip r with
      | '.' :: r => (keyFrom fuel (skip r)).map fun (key, r) => (part :: key, r)
      | r => some ([part], r)

def key? (s : List Char) : Option (Key × List Char) := keyFrom (s.length + 1) s

def digitRun (isMember : Char → Bool) : List Char → List Char × List Char
  | '_' :: c :: r =>
    if isMember c then
      let (run, rest) := digitRun isMember r
      (c :: run, rest)
    else ([], '_' :: c :: r)
  | c :: r =>
    if isMember c then
      let (run, rest) := digitRun isMember r
      (c :: run, rest)
    else ([], c :: r)
  | [] => ([], [])

def digitRun? (isMember : Char → Bool) (s : List Char) : Option (List Char × List Char) :=
  match s with
  | c :: _ => if isMember c then some (digitRun isMember s) else none
  | [] => none

def valueIn (base : Nat) (s : List Char) : Nat :=
  s.foldl (fun n c => n * base + (hexNibble? c).getD 0) 0

def based? (s : List Char) : Option (Value × List Char) :=
  let read := fun (base : Nat) (isMember : Char → Bool) (r : List Char) =>
    (digitRun? isMember r).map fun (run, r) => (Value.int (valueIn base run), r)
  match s with
  | '0' :: 'x' :: r => read 16 (fun c => (hexNibble? c).isSome) r
  | '0' :: 'b' :: r => read 2 (fun c => c == '0' || c == '1') r
  | '0' :: 'o' :: r => read 8 (fun c => '0' ≤ c && c ≤ '7') r
  | _ => none

def sign (s : List Char) : Bool × List Char :=
  match s with
  | '-' :: r => (true, r)
  | '+' :: r => (false, r)
  | r => (false, r)

def whole? (s : List Char) : Option (List Char × List Char) :=
  match s with
  | '0' :: r => some (['0'], r)
  | r => digitRun? isAsciiDigit r

def fraction? : List Char → Option (List Char × List Char)
  | '.' :: r => digitRun? isAsciiDigit r
  | _ => none

def exponent? : List Char → Option (Int × List Char)
  | c :: r =>
    if c = 'e' ∨ c = 'E' then
      let (negative, r) := sign r
      (digitRun? isAsciiDigit r).map fun (run, r) =>
        (if negative then -(decimalValue run : Int) else decimalValue run, r)
    else none
  | [] => none

def decimal? (s : List Char) : Option (Value × List Char) :=
  let (negative, r) := sign s
  (whole? r).map fun (whole, r) =>
    let part := fraction? r
    let r := (part.map Prod.snd).getD r
    let exponent := exponent? r
    let r := (exponent.map Prod.snd).getD r
    if part.isNone ∧ exponent.isNone then
      let n : Int := decimalValue whole
      (.int (if negative then -n else n), r)
    else
      (.double (double negative whole ((part.map Prod.fst).getD []) ((exponent.map Prod.fst).getD 0)), r)

def special? (s : List Char) : Option (Value × List Char) :=
  let (negative, r) := sign s
  match r with
  | 'i' :: 'n' :: 'f' :: r => some (.double (Double.infinity negative), r)
  | 'n' :: 'a' :: 'n' :: r => some (.double Double.nan, r)
  | _ => none

def scalar? (s : List Char) : Option (Value × List Char) :=
  match s with
  | 't' :: 'r' :: 'u' :: 'e' :: r => some (.bool true, r)
  | 'f' :: 'a' :: 'l' :: 's' :: 'e' :: r => some (.bool false, r)
  | s =>
    match Moment.read? s with
    | some found => found.map fun (text, r) => (.moment text, r)
    | none => ((based? s).or (decimal? s)).or (special? s)

/-- Goes down the tables of a path, making those that are missing, and changes the last one. A list of tables
is entered at its last one if that is allowed. -/
def updateAt (enterLists : Bool) (change : Fields → Option Fields) : Key → Fields → Option Fields
  | [], fields => change fields
  | k :: rest, fields =>
    match Fields.get? fields k with
    | none => (updateAt enterLists change rest []).map fun inner => Fields.insert fields k (.table inner)
    | some (.table inner) =>
      (updateAt enterLists change rest inner).map fun inner => Fields.insert fields k (.table inner)
    | some (.list items) =>
      if enterLists then
        match items.getLast? with
        | some (.table inner) =>
          (updateAt enterLists change rest inner).map fun inner =>
            Fields.insert fields k (.list (items.dropLast ++ [.table inner]))
        | _ => none
      else none
    | some _ => none

def addNew (name : String) (v : Value) (fields : Fields) : Option Fields :=
  if (Fields.get? fields name).isSome then none else some (Fields.insert fields name v)

def isContainer : Value → Bool
  | .list _ => true
  | .table _ => true
  | _ => false

def startsWith (path key : Key) : Bool := path.isPrefixOf key

mutual
/-- The fuel bounds the number of readings. -/
def value? : Nat → List Char → Option (Value × List Char)
  | 0, _ => none
  | fuel + 1, s =>
    match s with
    | '"' :: _ => (string? s).map fun (text, r) => (.string (String.ofList text), r)
    | '\'' :: _ => (string? s).map fun (text, r) => (.string (String.ofList text), r)
    | '[' :: r => (skipAll r).bind fun r => (items? fuel r).map fun (items, r) => (.list items, r)
    | '\x7b' :: r =>
      match skip r with
      | '\x7d' :: r => some (.table [], r)
      | r => (inline? fuel [] [] r).map fun (fields, r) => (.table fields, r)
    | s => scalar? s

def items? : Nat → List Char → Option (List Value × List Char)
  | 0, _ => none
  | fuel + 1, s =>
    match s with
    | ']' :: r => some ([], r)
    | s =>
      (value? fuel s).bind fun (v, r) =>
        (skipAll r).bind fun r =>
          match r with
          | ']' :: r => some ([v], r)
          | ',' :: r => (skipAll r).bind fun r => (items? fuel r).map fun (rest, r) => (v :: rest, r)
          | _ => none

def inline? : Nat → Fields → List Key → List Char → Option (Fields × List Char)
  | 0, _, _, _ => none
  | fuel + 1, fields, frozen, s =>
    (key? s).bind fun (key, r) =>
      match skip r with
      | '=' :: r =>
        (value? fuel (skip r)).bind fun (v, r) =>
          if frozen.any (startsWith · key) then none
          else
            (updateAt false (addNew (key.getLastD "") v) key.dropLast fields).bind fun fields =>
              match skip r with
              | '\x7d' :: r => some (fields, r)
              | ',' :: r => inline? fuel fields (if isContainer v then key :: frozen else frozen) (skip r)
              | _ => none
      | _ => none
end

def readValue? (s : List Char) : Option (Value × List Char) := value? (2 * s.length + 2) s

end AsmScope.Toml
