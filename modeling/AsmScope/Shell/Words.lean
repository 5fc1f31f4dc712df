/-! Words of a shell line. Blanks part words; single quotes hold everything up to the next one, double quotes
hold all but a backslash before a quote or a backslash, and outside quotes a backslash holds one character.
Quotes alone make an empty word. `quote` writes a word so that it is read back as one. -/

namespace AsmScope.Shell

inductive SplitError where
  | openQuote
  | openEscape
  deriving DecidableEq, Repr

def SplitError.message : SplitError → String
  | .openQuote => "No closing quotation"
  | .openEscape => "No escaped character"

inductive Mode where
  | outside
  | word
  | single
  | double
  | escape
  | doubleEscape
  deriving DecidableEq, Repr

def isSeparator (c : Char) : Bool := c == ' ' || c == '\t' || c == '\r' || c == '\n'

def wordsFrom : Mode → List Char → List Char → Except SplitError (List (List Char))
  | .outside, _, [] => .ok []
  | .word, word, [] => .ok [word.reverse]
  | .single, _, [] => .error .openQuote
  | .double, _, [] => .error .openQuote
  | .escape, _, [] => .error .openEscape
  | .doubleEscape, _, [] => .error .openEscape
  | .outside, _, c :: r =>
    if isSeparator c then wordsFrom .outside [] r
    else if c = '\\' then wordsFrom .escape [] r
    else if c = '\'' then wordsFrom .single [] r
    else if c = '"' then wordsFrom .double [] r
    else wordsFrom .word [c] r
  | .word, word, c :: r =>
    if isSeparator c then (wordsFrom .outside [] r).map (word.reverse :: ·)
    else if c = '\\' then wordsFrom .escape word r
    else if c = '\'' then wordsFrom .single word r
    else if c = '"' then wordsFrom .double word r
    else wordsFrom .word (c :: word) r
  | .single, word, c :: r =>
    if c = '\'' then wordsFrom .word word r else wordsFrom .single (c :: word) r
  | .double, word, c :: r =>
    if c = '"' then wordsFrom .word word r
    else if c = '\\' then wordsFrom .doubleEscape word r
    else wordsFrom .double (c :: word) r
  | .escape, word, c :: r => wordsFrom .word (c :: word) r
  | .doubleEscape, word, c :: r =>
    if c = '"' ∨ c = '\\' then wordsFrom .double (c :: word) r
    else wordsFrom .double (c :: '\\' :: word) r

def words (s : List Char) : Except SplitError (List (List Char)) := wordsFrom .outside [] s

def wordsOf (s : String) : Except SplitError (List String) :=
  (words s.toList).map fun found => (found.filter (!·.isEmpty)).map String.ofList

def isSafe (c : Char) : Bool :=
  c.isAlphanum || c == '_' || c == '@' || c == '%' || c == '+' || c == '=' || c == ':' || c == ','
    || c == '.' || c == '/' || c == '-'

/-- A single quote cannot stand between single quotes; it is put between double ones. -/
def quoteChar (c : Char) : List Char :=
  if c = '\'' then ['\'', '"', '\'', '"', '\''] else [c]

def singleQuoted (s : List Char) : List Char := '\'' :: (s.flatMap quoteChar ++ ['\''])

def quote (s : List Char) : List Char :=
  if !s.isEmpty && s.all isSafe then s else singleQuoted s

def quoted (s : String) : String := String.ofList (quote s.toList)

end AsmScope.Shell
