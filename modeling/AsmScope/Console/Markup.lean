import AsmScope.Console.Literal
import AsmScope.Console.Look
import AsmScope.Console.Shortcode

/-! Markup of the console. A tag stands between square brackets; a backslash before it makes it plain text, and two
backslashes before it are one. Tags choose how a text looks and are not seen themselves, so what is left of a text
is its plain parts. A tag is closed under the name of its look, however that was put. Each plain part is searched for
picture names on its own. -/

namespace AsmScope.Console
open AsmScope.Text

/-- A character, or a tag with the number of backslashes before it. -/
inductive Token where
  | char (c : Char)
  | tag (backslashes : Nat) (text : List Char)
  deriving DecidableEq, Repr

def startsTag (c : Char) : Bool := ('a' ≤ c && c ≤ 'z') || c == '#' || c == '/' || c == '@'

def upToBracket : List Char → Option (List Char)
  | [] => none
  | c :: r => if c = ']' then some [] else if c = '[' then none else (upToBracket r).map (c :: ·)

def tag? : List Char → Option (List Char)
  | '[' :: c :: r => if startsTag c then (upToBracket r).map (c :: ·) else none
  | _ => none

def isBackslash (c : Char) : Bool := c == '\\'

def backslashes (s : List Char) : Nat := (s.takeWhile isBackslash).length

/-- The number counts characters that are still to be passed over. -/
def tokensFrom : Nat → List Char → List Token
  | _, [] => []
  | passed + 1, _ :: r => tokensFrom passed r
  | 0, c :: r =>
    match tag? ((c :: r).dropWhile isBackslash) with
    | some text =>
      .tag (backslashes (c :: r)) text :: tokensFrom (backslashes (c :: r) + text.length + 1) r
    | none => .char c :: tokensFrom 0 r

def tokens (s : List Char) : List Token := tokensFrom 0 s

def bracketed (text : List Char) : List Char := '[' :: text ++ [']']

def escapeToken : Token → List Char
  | .char c => [c]
  | .tag n text => List.replicate (2 * n + 1) '\\' ++ bracketed text

/-- A single backslash at the end is doubled, lest it meet a tag that follows. -/
def guardEnd (s : List Char) : List Char :=
  if backslashes s.reverse = 1 then s ++ ['\\'] else s

def escape (s : List Char) : List Char := guardEnd ((tokens s).flatMap escapeToken)

/-- A backslash before a bracket goes, also where the bracket begins no tag. -/
def plainText (s : List Char) : List Char := replaceCodes (replaceAll ['\\', '['] ['['] s)

structure OpenTag where
  name : String
  parameters : Option (List Char)
  deriving DecidableEq, Repr

def tagName (text : List Char) : List Char := text.takeWhile (· != '=')

def tagParameters (text : List Char) : Option (List Char) :=
  match text.dropWhile (· != '=') with
  | [] => none
  | _ :: parameters => some parameters

def actionValues (s : List Char) : List Char :=
  let rest := s.dropWhile fun c => isWord c || c == '.'
  match rest with
  | [] => "()".toList
  | '(' :: _ => if rest.getLast? = some ')' && !rest.contains '\n' then rest else s
  | _ => s

/-- A tag that stands for an action has its values read when it is closed. -/
def OpenTag.isSound (t : OpenTag) : Bool :=
  match t.name.toList, t.parameters with
  | '@' :: _, some parameters => parameters.isEmpty || Literal.isWellWritten (actionValues (trim parameters))
  | _, _ => true

def dropNamed (name : String) : List OpenTag → Option (OpenTag × List OpenTag)
  | [] => none
  | t :: rest => if t.name = name then some (t, rest) else (dropNamed name rest).map fun found => (found.1, t :: found.2)

/-- A closing tag takes away the last tag of its name, or the last of all if it has no name. -/
def close (name : List Char) (isOpen : List OpenTag) : Option (List OpenTag) := do
  let (closed, rest) ← if name.isEmpty then isOpen.head?.map (·, isOpen.tail)
    else (Look.nameOf? name).bind (dropNamed · isOpen)
  if closed.isSound then some rest else none

def follow (text : List Char) (isOpen : List OpenTag) : Option (List OpenTag) :=
  match tagName text with
  | '/' :: name => close (trim name) isOpen
  | name => (Look.nameOf? name).map fun look => ⟨look, tagParameters text⟩ :: isOpen

/-- The plain part being read comes last character first, and the open tags come last first. -/
def renderFrom : List Token → List Char → List OpenTag → Option (List Char)
  | [], plain, _ => some (plainText plain.reverse)
  | .char c :: r, plain, isOpen => renderFrom r (c :: plain) isOpen
  | .tag n text :: r, plain, isOpen =>
    let before := plainText plain.reverse ++ List.replicate (n / 2) '\\'
    if n % 2 = 1 then
      (renderFrom r [] isOpen).map fun rest => before ++ plainText (bracketed text) ++ rest
    else
      match follow text isOpen with
      | none => none
      | some isOpen => (renderFrom r [] isOpen).map (before ++ ·)

def render (markup : List Char) : Option (List Char) := renderFrom (tokens markup) [] []

end AsmScope.Console
