import AsmScope.Compile.Failure
import AsmScope.Pattern.Reader
import AsmScope.Settings.Sections
import AsmScope.Text.Blank
import AsmScope.Text.Find

/-! What a request may not ask for. An option is bad if the pattern of allowed ones does not match at its
beginning or the pattern of forbidden ones does. An include is bad if its path is absolute or climbs. -/

namespace AsmScope
open AsmScope.Text

structure OptionScreen where
  allowed : Pattern
  forbidden : Pattern

namespace OptionScreen

def ofSettings (s : CompilationSettings) : OptionScreen :=
  ⟨Pattern.read s.allowedOptions, Pattern.read s.forbiddenOptions⟩

def isBad (screen : OptionScreen) (option : String) : Bool :=
  !screen.allowed.matchesStart option.toList || screen.forbidden.matchesStart option.toList

def bad (screen : OptionScreen) (options : List String) : List String := options.filter screen.isBad

end OptionScreen

namespace Source

def includeWords : List (List Char) := ["include", "import"].map String.toList

def nextMark : List Char := "_next".toList

def afterWord? (s : List Char) : Option (List Char) :=
  (includeWords.findSome? fun word => after? word s).map fun r => (after? nextMark r).getD r

def escapes (path : List Char) : Bool :=
  match path with
  | '/' :: _ => true
  | _ => occursIn ['.', '.'] (path.takeWhile (· != '\n'))

/-- A directive with blanks before the quote or bracket that opens its path. -/
def isEscapingInclude (line : List Char) : Bool :=
  match dropBlank line with
  | '#' :: r =>
    match (afterWord? (dropBlank r)).bind someBlank? with
    | some (c :: r) => (c == '"' || c == '<') && escapes r
    | _ => false
  | _ => false

def escapingFrom : Nat → List (List Char) → List Nat
  | _, [] => []
  | n, line :: rest =>
    if isEscapingInclude line then n :: escapingFrom (n + 1) rest else escapingFrom (n + 1) rest

def escapingLines (source : String) : List Nat := escapingFrom 1 (source.toList.splitOn '\n')

def check (source : String) : Option Failure :=
  match escapingLines source with
  | [] => none
  | lines => some (.badIncludes lines)

end Source
end AsmScope
