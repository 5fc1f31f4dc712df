import AsmScope.Listing.Disassembly
import AsmScope.Listing.Textual
import AsmScope.Pattern.Reader
import AsmScope.Text.Lines

/-! The listing of a text. A text of one line that begins with an angle bracket is a notice and is shown as it
is. Any other is read as assembler text or as a disassembly, cut to the greatest number of lines, and trimmed. -/

namespace AsmScope.Listing
open AsmScope.Text

structure View where
  primary : Option String := none
  hidden : Option Pattern := none
  maxLines : Option Int := none

def truncationMark : Line := ⟨"[truncated; too many lines]", none, none, none, []⟩

/-- The first `n` lines, or all but the last `-n`. -/
def firstLines (n : Int) (lines : List Line) : List Line :=
  if 0 ≤ n then lines.take n.toNat else lines.take (lines.length - n.natAbs)

def cutTo (n : Int) (lines : List Line) : List Line :=
  if n < lines.length then firstLines n lines ++ [truncationMark] else lines

def Line.trimEnd (l : Line) : Line := { l with text := String.ofList (dropBlankEnd l.text.toList) }

/-- Trailing blanks go, and of neighbouring empty lines only the first stays. -/
def trimFrom : Bool → List Line → List Line
  | _, [] => []
  | afterEmpty, l :: rest =>
    let l := l.trimEnd
    let empty := l.text.isEmpty
    if empty && afterEmpty then trimFrom empty rest else l :: trimFrom empty rest

def trimLines (lines : List Line) : List Line := trimFrom false lines

def isNotice (lines : List (List Char)) : Bool :=
  match lines with
  | [line] => line.head? == some '<'
  | _ => false

def annotated (view : View) (f : Filters) (lines : List (List Char)) : List Line :=
  if f.binary then disassembly view.primary view.hidden lines else textual view.primary f lines

def limited (view : View) (lines : List Line) : List Line :=
  match view.maxLines with
  | some n => cutTo n lines
  | none => lines

def plain (text : String) : Line := ⟨text, none, none, none, []⟩

def ofLines (view : View) (f : Filters) (lines : List (List Char)) : List Line :=
  if isNotice lines then lines.map fun line => plain (String.ofList line)
  else
    let found := limited view (annotated view f lines)
    if f.trim then trimLines found else found

def ofText (view : View) (f : Filters) (text : String) : List Line :=
  if text.isEmpty then [] else ofLines view f (listingLines text.toList)

def numerals (f : Filters) (lines : List (List Char)) : List (List Char) :=
  if isNotice lines then [] else if f.binary then disassemblyNumerals lines else textualNumerals lines

def read (view : View) (f : Filters) (text : String) : Except LongNumeral (List Line) :=
  match longNumeral? (numerals f (listingLines text.toList)) with
  | some e => .error e
  | none => .ok (ofText view f text)

/-- An empty pattern hides nothing. -/
def hidingPattern (pattern : String) : Option Pattern :=
  if pattern.isEmpty then none else some (Pattern.read pattern)

end AsmScope.Listing
