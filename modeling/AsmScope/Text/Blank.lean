/-! Blank characters and the blank ends of a text.
Blank are the characters with Unicode's white-space property together with the four
information separators U+001C to U+001F. The zero-width space and the byte order mark are not blank. -/

namespace AsmScope.Text

def isBlank (c : Char) : Bool :=
  let n := c.toNat
  (9 ≤ n && n ≤ 13) || (28 ≤ n && n ≤ 32) || n == 0x85 || n == 0xA0 || n == 0x1680
    || (0x2000 ≤ n && n ≤ 0x200A) || n == 0x2028 || n == 0x2029 || n == 0x202F
    || n == 0x205F || n == 0x3000

def dropBlank (s : List Char) : List Char := s.dropWhile isBlank

def dropBlankEnd (s : List Char) : List Char := (s.reverse.dropWhile isBlank).reverse

def trim (s : List Char) : List Char := dropBlankEnd (dropBlank s)

def someBlank? : List Char → Option (List Char)
  | c :: r => if isBlank c then some (dropBlank r) else none
  | [] => none

def wordsFrom : List Char → List Char → List (List Char)
  | [], word => if word.isEmpty then [] else [word.reverse]
  | c :: r, word =>
    if isBlank c then
      if word.isEmpty then wordsFrom r [] else word.reverse :: wordsFrom r []
    else wordsFrom r (c :: word)

def blankWords (s : List Char) : List (List Char) := wordsFrom s []

theorem dropBlank_cons (c : Char) (r : List Char) :
    dropBlank (c :: r) = if isBlank c then dropBlank r else c :: r := by
  simp [dropBlank, List.dropWhile_cons]

end AsmScope.Text
