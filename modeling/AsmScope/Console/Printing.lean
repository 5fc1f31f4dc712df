import AsmScope.Console.Cells
import AsmScope.Console.Markup
import AsmScope.Text.Tabs

/-! Printing to a console of some width. Control characters that move the cursor are left out, tabs go to their
stops, and a line that is too long is folded between words, or in a word that fits on no line. -/

namespace AsmScope.Console
open AsmScope.Text

def consoleWidth : Nat := 2000

def isCursorControl (c : Char) : Bool :=
  let n := c.toNat
  n == 7 || n == 8 || n == 11 || n == 12 || n == 13

def dropControls (s : List Char) : List Char := s.filter fun c => !isCursorControl c

def tabbed (part : List Char) : List Char :=
  part ++ List.replicate (1 + (tabWidth - cells (part ++ [' ']) % tabWidth) % tabWidth) ' '

/-- Tabs go to their stops. What stands before a tab begins at a stop, so it is measured on its own. -/
def stopTabs (s : List Char) : List Char :=
  let parts := s.splitOn '\t'
  parts.dropLast.flatMap tabbed ++ parts.getLastD []

/-- A word with the blanks after it; the first has those before it too. -/
def blockOf (s : List Char) : List Char :=
  let lead := s.takeWhile isBlank
  let rest := s.dropWhile isBlank
  let word := rest.takeWhile fun c => !isBlank c
  lead ++ word ++ (rest.dropWhile fun c => !isBlank c).takeWhile isBlank

def blocksFrom : Nat → List Char → List (List Char)
  | 0, _ => []
  | fuel + 1, s =>
    if (dropBlank s).isEmpty then [] else blockOf s :: blocksFrom fuel (s.drop (blockOf s).length)

def blocks (s : List Char) : List (List Char) := blocksFrom s.length s

inductive Overflow where
  | fold
  | ellipsis
  deriving DecidableEq, Repr

structure Fold where
  done : List (List Char)
  line : List Char
  used : Nat

def Fold.turn (f : Fold) : Fold := if f.line.isEmpty then f else ⟨f.done ++ [f.line], [], 0⟩

def Fold.put (f : Fold) (s : List Char) : Fold := ⟨f.done, f.line ++ s, f.used + cells s⟩

def Fold.add (overflow : Overflow) (width : Nat) (f : Fold) (block : List Char) : Fold :=
  let size := cells (dropBlankEnd block)
  if f.used + size ≤ width then f.put block
  else if size > width ∧ overflow = .fold then (chop width block).foldl (fun f piece => f.turn.put piece) f
  else f.turn.put block

def foldLine (overflow : Overflow) (width : Nat) (s : List Char) : List (List Char) :=
  match blocks s with
  | [] => [s]
  | found =>
    let f := found.foldl (Fold.add overflow width) ⟨[], [], 0⟩
    f.done ++ [f.line]

def trimExcess (width : Nat) (s : List Char) : List Char :=
  let blanks := s.length - (dropBlankEnd s).length
  s.take (s.length - min blanks (s.length - width))

def ellipsis : Char := '…'

def fit (overflow : Overflow) (width : Nat) (s : List Char) : List Char :=
  let s := trimExcess width s
  match overflow with
  | .fold => crop width s
  | .ellipsis => if cells s > width then crop (width - 1) s ++ [ellipsis] else s

def linesIn (overflow : Overflow) (width : Nat) (s : List Char) : List (List Char) :=
  (s.splitOn '\n').flatMap fun line => (foldLine overflow width (stopTabs line)).map (fit overflow width)

def unlines (lines : List (List Char)) : String :=
  String.ofList (lines.flatMap fun line => line ++ ['\n'])

def lay (s : List Char) : String := unlines (linesIn .fold consoleWidth (dropControls s))

def printed? (markup : List Char) : Option String := (render markup).map lay

end AsmScope.Console
