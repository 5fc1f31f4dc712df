import AsmScope.Listing.Line
import AsmScope.Listing.Textual
import AsmScope.Pattern.Basic
import AsmScope.Text.Blank
import AsmScope.Text.Numeral

/-! A disassembler's output as a listing. A line that begins with a path and a number says where the next rows
come from, a header opens a function, and a row has an address, octets and an instruction. Functions whose
names the hiding pattern matches are left out with their rows, and so is all before the first header. -/

namespace AsmScope.Listing
open AsmScope.Text

def isAtEnd (s : List Char) : Bool := s == [] || s == ['\n']

def originParts? (line : List Char) : Option (List Char × List Char) :=
  match line with
  | '/' :: r =>
    let path := r.takeWhile (· != ':')
    match r.dropWhile (· != ':') with
    | ':' :: r =>
      let digits := r.takeWhile isAsciiDigit
      if path.isEmpty || digits.isEmpty then none else some ('/' :: path, digits)
    | _ => none
  | _ => none

def origin? (line : List Char) : Option (List Char × Nat) :=
  (originParts? line).map fun parts => (parts.1, decimalValue parts.2)

def hexDigits? (s : List Char) : Option (List Char × List Char) :=
  let digits := s.takeWhile isHexDigit
  if digits.isEmpty then none else some (digits, s.dropWhile isHexDigit)

def angled? : List Char → Option (List Char × List Char)
  | '<' :: r =>
    let name := r.takeWhile (· != '>')
    match r.dropWhile (· != '>') with
    | '>' :: r => if name.isEmpty then none else some (name, r)
    | _ => none
  | _ => none

def header? (line : List Char) : Option (List Char) := do
  let (_, r) ← hexDigits? line
  let (name, r) ← (someBlank? r).bind angled?
  match r with
  | ':' :: r => if isAtEnd r then some name else none
  | _ => none

def octetRun : List Char → List Char × List Char
  | a :: b :: ' ' :: r =>
    if isHexDigit a && isHexDigit b then
      let (run, rest) := octetRun r
      (a :: b :: ' ' :: run, rest)
    else ([], a :: b :: ' ' :: r)
  | a :: b :: r =>
    if isHexDigit a && isHexDigit b then
      let (run, rest) := octetRun r
      (a :: b :: run, rest)
    else ([], a :: b :: r)
  | r => ([], r)

structure Row where
  address : Nat
  opcodes : List Nat
  text : List Char
  deriving DecidableEq, Repr

/-- What is not octets is the instruction; it is shown after one space. -/
def row? (line : List Char) : Option Row := do
  let (address, r) ← hexDigits? (dropBlank line)
  match r with
  | ':' :: r =>
    let (run, rest) := octetRun (dropBlank r)
    if run.isEmpty then none
    else
      some ⟨hexValue address, (blankWords run).map hexValue,
        ' ' :: dropBlankEnd ((dropBlank rest).takeWhile (· != '\n'))⟩
  | _ => none

def target? (s : List Char) : Option (List Char) := do
  let (digits, r) ← hexDigits? s
  let (_, r) ← (someBlank? r).bind angled?
  if isAtEnd r then some digits else none

/-- The leftmost blank before such an address; the number counts the characters passed. -/
def linkFrom (passed : Nat) : List Char → Option Link
  | [] => none
  | c :: r =>
    match (if isBlank c then target? r else none) with
    | some digits => some ⟨passed + 1, digits.length, hexValue digits⟩
    | none => linkFrom (passed + 1) r

def link? (text : List Char) : Option Link := linkFrom 0 text

def Row.toLine (row : Row) (source : Option SourceLocation) : Line :=
  ⟨String.ofList row.text, source, some row.address, some (row.opcodes.map Int.ofNat), (link? row.text).toList⟩

def isShown (hidden : Option Pattern) (function : List Char) : Bool :=
  !hidden.any fun p => p.matchesStart function

/-- The place that rows come from and the function that is open. -/
def disassemblyFrom (primary : Option String) (hidden : Option Pattern) :
    Option SourceLocation → Option (List Char) → List (List Char) → List Line
  | _, _, [] => []
  | source, function, line :: rest =>
    match origin? line with
    | some (path, number) =>
      disassemblyFrom primary hidden (some ⟨number, sourceFile primary (String.ofList path)⟩) function rest
    | none =>
      match header? line with
      | some name =>
        let later := disassemblyFrom primary hidden source (some name) rest
        if isShown hidden name then ⟨String.ofList (name ++ [':']), none, none, none, []⟩ :: later else later
      | none =>
        let later := disassemblyFrom primary hidden source function rest
        if function.any (isShown hidden) then
          match row? line with
          | some row => row.toLine source :: later
          | none => later
        else later

def disassemblyNumerals (lines : List (List Char)) : List (List Char) := (lines.filterMap originParts?).map Prod.snd

def disassembly (primary : Option String) (hidden : Option Pattern) (lines : List (List Char)) : List Line :=
  disassemblyFrom primary hidden none none lines

end AsmScope.Listing
