import AsmScope.Console.Printing
import AsmScope.Decimal.Double
import AsmScope.Text.Lines

/-! Tables on the console. A column is as wide as its widest text and two blanks; when all are wider than the
console, the widest ones give way until they fit. In its column a text is folded between words, and a word that is
too long is cut off. A row is shown by its lines, with bars between the cells and single blanks in them. -/

namespace AsmScope.Console
open AsmScope.Text

/-- The widest of the lines of a text, in which a tab takes no column. -/
def textWidth (s : List Char) : Nat := ((allLines s).map cells).foldl max 0

def padding : Nat := 2

/-- What is left for the columns when each has a border before it and the last one after it. -/
def roomFor (columns : Nat) : Nat := consoleWidth - (columns + 1)

/-- The columns that are as wide as the widest share an excess evenly, but none gives more than the limit. -/
def share (widest limit : Nat) : Nat → Nat → List Nat → List Nat
  | _, _, [] => []
  | excess, sharers, width :: rest =>
    if width = widest then
      let part := min limit (Double.roundDiv excess sharers)
      (width - part) :: share widest limit (excess - part) (sharers - 1) rest
    else width :: share widest limit excess sharers rest

def total : List Nat → Nat
  | [] => 0
  | width :: rest => width + total rest

def giveWay (room : Nat) (widths : List Nat) : List Nat :=
  let widest := widths.foldl max 0
  let next := (widths.filter (· != widest)).foldl max 0
  let excess := total widths - room
  share widest (min excess (widest - next)) excess (widths.filter (· == widest)).length widths

/-- Each turn ends the excess or makes two widths one, so there are no more turns than columns. -/
def collapse (room : Nat) : Nat → List Nat → List Nat
  | 0, widths => widths
  | turns + 1, widths => if total widths ≤ room then widths else collapse room turns (giveWay room widths)

def columnWidths (columns : List (List (List Char))) : List Nat :=
  let room := roomFor columns.length
  let wanted := columns.map fun texts => min room ((texts.map textWidth).foldl max 0 + padding)
  collapse room (columns.length + 1) wanted

def singleBlanks (s : List Char) : String := String.intercalate " " ((blankWords s).map String.ofList)

def isBar (c : Char) : Bool := c == '│' || c == '┃'

def betweenBars (s : List Char) : List (List Char) := (s.map fun c => if isBar c then '│' else c).splitOn '│'

def rowLine (cells : List (List Char)) : String :=
  String.intercalate " | " ((cells.flatMap betweenBars).map singleBlanks)

def linesOfRow : Nat → List (List (List Char)) → List String
  | 0, _ => []
  | height + 1, cells => rowLine (cells.map (·.headD [])) :: linesOfRow height (cells.map List.tail)

def showRow (widths : List Nat) (texts : List (List Char)) : List String :=
  let cells := (texts.zip widths).map fun (text, width) => linesIn .ellipsis (width - padding) text
  linesOfRow ((cells.map List.length).foldl max 1) cells

def columnsOf (count : Nat) (rows : List (List (List Char))) : List (List (List Char)) :=
  (List.range count).map fun n => rows.map fun row => row.getD n []

def cellText? (markup : String) : Option (List Char) := (render markup.toList).map dropControls

def table? (title : String) (header : List String) (rows : List (List String)) : Option (List String) :=
  ((header :: rows).mapM (List.mapM cellText?)).map fun texts =>
    title :: texts.flatMap (showRow (columnWidths (columnsOf header.length texts)))

end AsmScope.Console
