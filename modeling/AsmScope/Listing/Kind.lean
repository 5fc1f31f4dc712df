import AsmScope.Text.Blank
import AsmScope.Text.Word

/-! The kinds of lines in assembler text. The kinds are tried in a fixed order: blank, comment, label alone,
data, other directive, and all that is left is an instruction. A label may stand before an instruction on the
same line, so where a line defines a label and whether it carries an opcode are questions of their own. -/

namespace AsmScope.Listing
open AsmScope.Text

inductive Kind where
  | blank
  | comment
  | label
  | data
  | directive
  | instruction
  deriving DecidableEq, Repr

def Kind.name : Kind → String
  | .blank => "blank"
  | .comment => "comment"
  | .label => "label"
  | .data => "data"
  | .directive => "directive"
  | .instruction => "instruction"

def isLabelStart (c : Char) : Bool := isAsciiLetter c || c == '.' || c == '_' || c == '$'

def isLabelChar (c : Char) : Bool :=
  isAsciiLetter c || isAsciiDigit c || c == '$' || c == '_' || c == '.' || c == '@'

def definition? (line : List Char) : Option (List Char × List Char) :=
  match dropBlank line with
  | [] => none
  | c :: r =>
    if isLabelStart c then
      match r.dropWhile isLabelChar with
      | ':' :: rest => some (c :: r.takeWhile isLabelChar, rest)
      | _ => none
    else none

def label? (line : List Char) : Option (List Char) := (definition? line).map Prod.fst

def afterLabel (line : List Char) : List Char := ((definition? line).map Prod.snd).getD line

def opensComment : List Char → Bool
  | '#' :: _ => true
  | '@' :: _ => true
  | ';' :: _ => true
  | '/' :: '/' :: _ => true
  | _ => false

/-- After a label an at sign opens no comment. -/
def opensTrailingComment : List Char → Bool
  | '#' :: _ => true
  | ';' :: _ => true
  | '/' :: '/' :: _ => true
  | _ => false

/-- A label stands alone if only blanks or a comment follow; a line feed may only be the last character. -/
def isLabelTail (rest : List Char) : Bool :=
  let tail := dropBlank rest
  tail.isEmpty || (opensTrailingComment tail && tail.dropLast.all (· != '\n'))

def dataOps : List (List Char) :=
  ["string", "asciz", "ascii", "byte", "1byte", "2byte", "4byte", "8byte", "short", "word", "long", "quad",
    "value", "zero"].map String.toList

def pointWord? : List Char → Option (List Char)
  | '.' :: r => some (r.takeWhile isWord)
  | _ => none

def isData (line : List Char) : Bool :=
  match pointWord? (dropBlank line) with
  | some word => dataOps.contains word
  | none => false

def startsWithPoint (line : List Char) : Bool := (dropBlank line).head? == some '.'

def classify (line : List Char) : Kind :=
  if line.all isBlank then .blank
  else if opensComment (dropBlank line) then .comment
  else if (definition? line).any fun (_, rest) => isLabelTail rest then .label
  else if isData line then .data
  else if startsWithPoint line && (definition? line).isNone then .directive
  else .instruction

def isAssignmentStart (c : Char) : Bool := isAsciiLetter c || c == '_' || c == '.' || c == '$'

def isAssignmentChar (c : Char) : Bool := isAssignmentStart c || isAsciiDigit c

def isAssignment (body : List Char) : Bool :=
  match dropBlank body with
  | [] => false
  | c :: r => isAssignmentStart c && (dropBlank (r.dropWhile isAssignmentChar)).head? == some '='

def hasOpcode (line : List Char) : Bool :=
  let body := (afterLabel line).takeWhile fun c => c != '#' && c != ';'
  !isAssignment body && (dropBlank body).head?.any isAsciiLetter

end AsmScope.Listing
