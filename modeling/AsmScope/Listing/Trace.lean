import AsmScope.Text.Blank
import AsmScope.Text.Numeral
import AsmScope.Text.Word

/-! Numbered traces. A record has a number, a file and a line in parentheses, an opcode in capitals and its
operands. As assembler text a record is an instruction, with a location line before it wherever the place
changes and a file line before the first use of a file. Lines that are no records are left out. -/

namespace AsmScope.Trace
open AsmScope.Text

structure Record where
  file : List Char
  line : List Char
  opcode : List Char
  operands : List Char
  deriving DecidableEq, Repr

def isCapital (c : Char) : Bool := 'A' ≤ c && c ≤ 'Z'

def place? : List Char → Option (List Char × List Char × List Char)
  | '(' :: r =>
    let file := r.takeWhile (· != ':')
    match r.dropWhile (· != ':') with
    | ':' :: r =>
      let line := r.takeWhile isAsciiDigit
      match r.dropWhile isAsciiDigit with
      | ')' :: r => if file.isEmpty || line.isEmpty then none else some (file, line, r)
      | _ => none
    | _ => none
  | _ => none

def record? (text : List Char) : Option Record := do
  let s := trim text
  if (s.takeWhile isAsciiDigit).isEmpty then none
  else
    let (file, line, r) ← place? (dropBlank (s.dropWhile isAsciiDigit))
    let r := dropBlank r
    let opcode := r.takeWhile isCapital
    if opcode.isEmpty then none
    else some ⟨file, line, opcode, (r.dropWhile isCapital).takeWhile (· != '\n')⟩

def decimal (n : Nat) : List Char := (toString n).toList

def fileLine (number : Nat) (file : List Char) : List Char :=
  "\t.file ".toList ++ decimal number ++ " \"".toList ++ file ++ ['"']

def locLine (number : Nat) (line : List Char) : List Char :=
  "\t.loc ".toList ++ decimal number ++ ' ' :: line

def instruction (r : Record) : List Char := '\t' :: (r.opcode.map Char.toLower ++ r.operands)

/-- The files known so far, in order of their numbers, and the place of the record before. -/
def assembleFrom : List (List Char) → Option (Nat × List Char) → List Record → List (List Char)
  | _, _, [] => []
  | files, previous, r :: rest =>
    let isNew := !files.contains r.file
    let files := if isNew then files ++ [r.file] else files
    let number := files.idxOf r.file + 1
    let place := (number, r.line)
    (if isNew then [fileLine number r.file] else [])
      ++ (if previous = some place then [] else [locLine number r.line])
      ++ instruction r :: assembleFrom files (some place) rest

def assemble (records : List Record) : List (List Char) := assembleFrom [] none records

def toText (lines : List (List Char)) : List Char :=
  List.intercalate ['\n'] (assemble (lines.filterMap record?))

end AsmScope.Trace
