/-! Tab stops every eight columns. A column counts characters since the last line feed or carriage return. -/

namespace AsmScope.Text

def tabWidth : Nat := 8

/-- The number is the column of the next character. -/
def expandTabsFrom : Nat → List Char → List Char
  | _, [] => []
  | column, c :: r =>
    if c = '\t' then
      let fill := tabWidth - column % tabWidth
      List.replicate fill ' ' ++ expandTabsFrom (column + fill) r
    else if c = '\n' ∨ c = '\r' then c :: expandTabsFrom 0 r
    else c :: expandTabsFrom (column + 1) r

def expandTabs (s : List Char) : List Char := expandTabsFrom 0 s

end AsmScope.Text
