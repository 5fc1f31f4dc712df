import AsmScope.Decimal.Reading
import AsmScope.Text.Find
import AsmScope.Text.Word

/-! Values as a tag can hold them: numbers, texts in quotes, the words for truth and nothing, and groups of values in
parentheses or braces. Only whether a value is well written matters here, so a reader gives what follows it. -/

namespace AsmScope.Console.Literal
open AsmScope.Text AsmScope.Decimal

def isSpace (c : Char) : Bool := c == ' ' || c == '\t' || c == '\n' || c == Char.ofNat 12

def skip (s : List Char) : List Char := s.dropWhile isSpace

def afterQuote? (quote : Char) : List Char → Option (List Char)
  | [] => none
  | '\\' :: _ :: r => afterQuote? quote r
  | c :: r => if c = quote then some r else if c = '\n' then none else afterQuote? quote r

def isQuote (c : Char) : Bool := c == '\'' || c == '"'

def afterText? : List Char → Option (List Char)
  | quote :: r => if isQuote quote then afterQuote? quote r
    else if ['r', 'R', 'b', 'B', 'u', 'U'].contains quote then
      match r with
      | quote :: r => if isQuote quote then afterQuote? quote r else none
      | [] => none
    else none
  | [] => none

def afterNumber? (s : List Char) : Option (List Char) :=
  let (whole, r) := takeDigits s
  let (part, r) := match r with
    | '.' :: r => takeDigits r
    | r => ([], r)
  if whole.isEmpty && part.isEmpty then none
  else
    let after := ((exponent? r).map Prod.snd).getD r
    let isWhole := r.length + whole.length == s.length && after.length == r.length
    if isWhole && whole.head? == some '0' && !(whole.all (· == '0')) then none
    else if after.head?.any isWord then none else some after

def words : List (List Char) := ["True".toList, "False".toList, "None".toList, "...".toList]

def afterWord? (s : List Char) : Option (List Char) :=
  (words.findSome? fun word => after? word s).filter fun r => !(r.head?.any isWord)

mutual
/-- The fuel bounds the number of readings, one at least for each character. -/
def afterValue? : Nat → List Char → Option (List Char)
  | 0, _ => none
  | fuel + 1, s =>
    match skip s with
    | '(' :: r => afterGroup? fuel ')' false r
    | '\x7b' :: r => afterGroup? fuel '\x7d' true r
    | '-' :: r => afterNumber? (skip r)
    | '+' :: r => afterNumber? (skip r)
    | r => ((afterText? r).or (afterNumber? r)).or (afterWord? r)

def afterGroup? : Nat → Char → Bool → List Char → Option (List Char)
  | 0, _, _, _ => none
  | fuel + 1, closing, pairs, s =>
    match skip s with
    | [] => none
    | c :: r =>
      if c = closing then some r
      else
        (afterValue? fuel (c :: r)).bind fun r =>
          match skip r with
          | ':' :: r => if pairs then (afterValue? fuel r).bind (afterItem? fuel closing pairs) else none
          | r => afterItem? fuel closing pairs r

def afterItem? : Nat → Char → Bool → List Char → Option (List Char)
  | 0, _, _, _ => none
  | fuel + 1, closing, pairs, s =>
    match skip s with
    | ',' :: r => afterGroup? fuel closing pairs r
    | c :: r => if c = closing then some r else none
    | [] => none
end

def isWellWritten (s : List Char) : Bool :=
  match skip s with
  | [] => false
  | r => afterGroup? (2 * r.length + 4) ')' false (r ++ [')']) == some []

end AsmScope.Console.Literal
