import AsmScope.Document.Value
import AsmScope.Text.Blank
import AsmScope.Text.Find
import AsmScope.Text.Lines
import AsmScope.Text.Numeral

/-! What a compiler says, line by line. The path of the compiled file is replaced by a mark, so that a message
shows nothing of the directory the job ran in; a line that begins with the mark and a place is tagged with it.
Empty lines are dropped, and so are those that begin with a note of unfinished work. -/

namespace AsmScope
open AsmScope.Text

structure Tag where
  line : Int
  column : Int
  text : String
  deriving DecidableEq, Repr

structure Diagnostic where
  text : String
  tag : Option Tag := none
  deriving DecidableEq, Repr

def Tag.toValue (t : Tag) : Value :=
  .table [("line", .int t.line), ("column", .int t.column), ("text", .string t.text)]

def Diagnostic.toValue (d : Diagnostic) : Value :=
  .table (("text", .string d.text) :: (d.tag.map fun t => ("tag", t.toValue)).toList)

namespace Diagnostic

def sourceMark : List Char := "<source>".toList

def unfinishedMark : List Char := "fixme:".toList

def asciiNumeral? (s : List Char) : Option (List Char × List Char) :=
  let digits := s.takeWhile isAsciiDigit
  if digits.isEmpty then none else some (digits, s.dropWhile isAsciiDigit)

def column? : List Char → Option (List Char × List Char)
  | ':' :: r =>
    match asciiNumeral? r with
    | some (digits, ':' :: r) => some (digits, r)
    | _ => none
  | _ => none

def isPlaceEnd (c : Char) : Bool := c == ')' || c == ':'

structure TagParts where
  line : List Char
  column : Option (List Char)
  text : List Char
  deriving DecidableEq, Repr

def tagParts? (s : List Char) : Option TagParts := do
  let r ← after? sourceMark (dropBlank s)
  match r with
  | c :: r =>
    if c = ':' ∨ c = '(' then
      let (line, r) ← asciiNumeral? r
      let column := column? r
      let text := (dropBlank (((column.map Prod.snd).getD r).dropWhile isPlaceEnd)).takeWhile (· != '\n')
      some ⟨line, column.map Prod.fst, trim text⟩
    else none
  | [] => none

/-- A line without a column is tagged with column zero. -/
def TagParts.tag (p : TagParts) : Tag :=
  ⟨decimalValue p.line, (p.column.map decimalValue).getD 0, String.ofList p.text⟩

def tag? (s : List Char) : Option Tag := (tagParts? s).map TagParts.tag

def told? (file : List Char) (raw : List Char) : Option (List Char) :=
  let line := replaceAll file sourceMark (trim raw)
  if line.isEmpty || unfinishedMark.isPrefixOf line then none else some line

def ofLine? (file : List Char) (raw : List Char) : Option Diagnostic :=
  (told? file raw).map fun line => ⟨String.ofList line, tag? line⟩

/-- The lines of an output. An empty path occurs nowhere. -/
def ofOutput (file output : String) : List Diagnostic :=
  (allLines output.toList).filterMap (ofLine? file.toList)

def numerals (file output : String) : List (List Char) :=
  ((allLines output.toList).filterMap fun raw => (told? file.toList raw).bind tagParts?).flatMap fun parts =>
    parts.line :: parts.column.toList

def read (file output : String) : Except LongNumeral (List Diagnostic) :=
  match longNumeral? (numerals file output) with
  | some e => .error e
  | none => .ok (ofOutput file output)

end Diagnostic
end AsmScope
