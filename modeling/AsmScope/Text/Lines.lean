/-! Three ways of cutting a text into lines, and the reading of a text file.
A listing is cut at a line feed, which may have one carriage return before it. The output of
a tool is cut at every line boundary that Unicode knows. A source is cut at line feeds only.
A final boundary never opens another line, except in a source. -/

namespace AsmScope.Text

def dropReturn (s : List Char) : List Char :=
  if s.getLast? = some '\r' then s.dropLast else s

/-- The pieces between line feeds, each but the last without its carriage return;
an empty last piece is no line. -/
def listingLines (s : List Char) : List (List Char) :=
  let pieces := s.splitOn '\n'
  let last := pieces.getLastD []
  pieces.dropLast.map dropReturn ++ (if last.isEmpty then [] else [last])

def isLineEnd (c : Char) : Bool :=
  let n := c.toNat
  (10 ≤ n && n ≤ 13) || (28 ≤ n && n ≤ 30) || n == 0x85 || n == 0x2028 || n == 0x2029

/-- The second argument is the line being read, last character first. -/
def allLinesFrom : List Char → List Char → List (List Char)
  | [], line => if line.isEmpty then [] else [line.reverse]
  | '\r' :: '\n' :: r, line => line.reverse :: allLinesFrom r []
  | c :: r, line =>
    if isLineEnd c then line.reverse :: allLinesFrom r [] else allLinesFrom r (c :: line)

def allLines (s : List Char) : List (List Char) := allLinesFrom s []

def linesOf (s : String) : List String := (allLines s.toList).map String.ofList

def oneLineEnd : List Char → List Char
  | [] => []
  | '\r' :: '\n' :: r => '\n' :: oneLineEnd r
  | c :: r => (if c = '\r' then '\n' else c) :: oneLineEnd r

end AsmScope.Text
