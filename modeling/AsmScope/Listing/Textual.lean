import AsmScope.Listing.Filters
import AsmScope.Listing.Labels
import AsmScope.Listing.Line
import AsmScope.Path
import AsmScope.Text.Find
import AsmScope.Text.Numeral
import AsmScope.Text.Tabs

/-! Assembler text as a listing. Every line is kept or dropped by the filters, in order; a kept one has its
tabs expanded and, if it carries an opcode, the place in the source that the last location line gave.
An end of a block takes away both the place and the label that owns what follows. -/

namespace AsmScope.Listing
open AsmScope.Text

/-- The names of the files, by their numbers; a later entry wins. -/
abbrev FileTable := List (Nat × String)

def quotedName? : List Char → Option (List Char × List Char)
  | '"' :: r =>
    let name := r.takeWhile (· != '"')
    match r.dropWhile (· != '"') with
    | '"' :: r => if name.isEmpty then none else some (name, r)
    | _ => none
  | _ => none

def numeral? (s : List Char) : Option (List Char × List Char) :=
  let digits := s.takeWhile isDigit
  if digits.isEmpty then none else some (digits, s.dropWhile isDigit)

def afterFile? : List Char → Option (List Char)
  | '.' :: 'f' :: 'i' :: 'l' :: 'e' :: r => some r
  | _ => none

def afterLoc? : List Char → Option (List Char)
  | '.' :: 'l' :: 'o' :: 'c' :: r => some r
  | _ => none

/-- A numeral and the name of a file. A directory and a name in it are joined by a slash. -/
def fileParts? (line : List Char) : Option (List Char × String) := do
  let r ← (afterFile? (dropBlank line)).bind someBlank?
  let (digits, r) ← numeral? r
  let (first, r) ← (someBlank? r).bind quotedName?
  match (someBlank? r).bind quotedName? with
  | some (second, _) => return (digits, String.ofList (first ++ '/' :: second))
  | none => return (digits, String.ofList first)

def fileEntry? (line : List Char) : Option (Nat × String) :=
  (fileParts? line).map fun parts => (decimalValue parts.1, parts.2)

def fileTable (lines : List (List Char)) : FileTable := (lines.filterMap fileEntry?).reverse

def locationParts? (line : List Char) : Option (List Char × List Char) := do
  let r ← (afterLoc? (dropBlank line)).bind someBlank?
  let (file, r) ← numeral? r
  let (digits, _) ← (someBlank? r).bind numeral?
  return (file, digits)

def location? (line : List Char) : Option (Nat × Nat) :=
  (locationParts? line).map fun parts => (decimalValue parts.1, decimalValue parts.2)

def blockEnds : List (List Char) := ["cfi_endproc", "data", "text", "section"].map String.toList

/-- Somewhere in the line a point stands before one of the words that end a block. -/
def endsBlock : List Char → Bool
  | [] => false
  | c :: r => (pointWord? (c :: r)).any blockEnds.contains || endsBlock r

def stdinMark : List Char := "<stdin>".toList

def isStdin (name : List Char) : Bool := occursIn stdinMark name || name == ['-'] || name == ['-', '\n']

def sourceFile (primary : Option String) (name : String) : Option String :=
  if isStdin name.toList then none
  else if primary.any fun file => !file.isEmpty && (Path.ofString name).name == file then none
  else some name

/-- What the lines above say of the next one: its place in the source and the used label that owns it. -/
structure Standing where
  source : Option SourceLocation
  owner : Option Name
  deriving DecidableEq, Repr

def Standing.initial : Standing := ⟨none, none⟩

structure Tables where
  files : FileTable
  used : List Name
  primary : Option String

def Tables.locate (t : Tables) (file line : Nat) : SourceLocation :=
  ⟨line, (t.files.lookup file).bind (sourceFile t.primary)⟩

/-- A location line sets the place; the end of a block clears everything. -/
def Standing.enter (s : Standing) (t : Tables) (line : List Char) : Standing :=
  let s := match location? line with
    | some (file, number) => { s with source := some (t.locate file number) }
    | none => s
  if endsBlock line then Standing.initial else s

/-- A used label owns what follows; an unused one that stands alone leaves it without an owner. -/
def Standing.own (s : Standing) (t : Tables) (kind : Kind) (line : List Char) : Standing :=
  match kind, label? line with
  | .label, some name => { s with owner := if t.used.contains name then some name else none }
  | .instruction, some name => if t.used.contains name then { s with owner := some name } else s
  | _, _ => s

def isKept (f : Filters) (t : Tables) (s : Standing) (kind : Kind) (line : List Char) : Bool :=
  match kind with
  | .blank | .instruction => true
  | .comment => !f.commentOnly
  | .label => !f.labels || (label? line).any t.used.contains
  | .directive => !f.directives
  | .data => !f.directives || s.owner.isSome

def shownLine (s : Standing) (kind : Kind) (line : List Char) : Line :=
  match kind with
  | .blank => ⟨"", none, none, none, []⟩
  | _ => ⟨String.ofList (expandTabs line), if hasOpcode line then s.source else none, none, none, []⟩

/-- A blank line changes nothing for the lines below it. -/
def Standing.next (s : Standing) (t : Tables) (line : List Char) : Standing :=
  match classify line with
  | .blank => s
  | kind => (s.enter t line).own t kind line

def textualFrom (f : Filters) (t : Tables) : Standing → List (List Char) → List Line
  | _, [] => []
  | s, line :: rest =>
    let s := s.next t line
    let kind := classify line
    if isKept f t s kind line then shownLine s kind line :: textualFrom f t s rest
    else textualFrom f t s rest

def tablesOf (primary : Option String) (f : Filters) (lines : List (List Char)) : Tables :=
  ⟨fileTable lines, usedLabels f.directives lines, primary⟩

/-- The numerals that are read, in the order of reading. The file entries are read before anything else. -/
def textualNumerals (lines : List (List Char)) : List (List Char) :=
  (lines.filterMap fileParts?).map Prod.fst ++ (lines.filterMap locationParts?).flatMap fun parts => [parts.1, parts.2]

def textual (primary : Option String) (f : Filters) (lines : List (List Char)) : List Line :=
  textualFrom f (tablesOf primary f lines) Standing.initial lines

end AsmScope.Listing
