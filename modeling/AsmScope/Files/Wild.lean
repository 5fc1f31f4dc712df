import AsmScope.Files.Tree
import AsmScope.Pattern.Basic

/-! Patterns for the names of files. A star stands for any run of characters, a question mark for any one, and
brackets for one of those in them. A path of patterns is followed name by name; two stars that stand alone lead to
any directory below. -/

namespace AsmScope

inductive Wild where
  | run
  | char (accepts : CharClass)
  deriving Repr

namespace Wild

/-- The members of a bracket up to its end; a bracket that stands first is a member. -/
def bracketEnd? : List Char → Option (List Char × List Char)
  | [] => none
  | c :: r =>
    match r.dropWhile (· != ']') with
    | ']' :: rest => some (c :: r.takeWhile (· != ']'), rest)
    | _ => none

def members : List Char → List CharClass
  | a :: '-' :: b :: r => .range a b :: members r
  | c :: r => .range c c :: members r
  | [] => []

def bracket? (s : List Char) : Option (CharClass × List Char) :=
  match s with
  | '!' :: r => (bracketEnd? r).map fun (inside, rest) => (.except (members inside), rest)
  | r => (bracketEnd? r).map fun (inside, rest) => (.any (members inside), rest)

def readFrom : Nat → List Char → List Wild
  | 0, _ => []
  | _, [] => []
  | fuel + 1, '*' :: r => .run :: readFrom fuel r
  | fuel + 1, '?' :: r => .char (.except []) :: readFrom fuel r
  | fuel + 1, '[' :: r =>
    match bracket? r with
    | some (k, rest) => .char k :: readFrom fuel rest
    | none => .char (.single '[') :: readFrom fuel r
  | fuel + 1, c :: r => .char (.single c) :: readFrom fuel r

def read (s : List Char) : List Wild := readFrom s.length s

def accepts : List Wild → List Char → Bool
  | [], s => s.isEmpty
  | .run :: rest, [] => accepts rest []
  | .run :: rest, c :: s => accepts rest (c :: s) || accepts (.run :: rest) s
  | .char _ :: _, [] => false
  | .char k :: rest, c :: s => k.has c && accepts rest s
termination_by p s => p.length + s.length

end Wild

inductive WildStep where
  | outwards
  | anyDepth
  | name (s : String)
  | wild (pattern : List Wild)
  deriving Repr

namespace WildStep

def isWildChar (c : Char) : Bool := c == '*' || c == '?' || c == '['

def ofName (s : List Char) : WildStep :=
  if s = ['.', '.'] then .outwards
  else if s = ['*', '*'] then .anyDepth
  else if s.any isWildChar then .wild (Wild.read s)
  else .name (String.ofList s)

def read (s : String) : List WildStep :=
  ((s.toList.splitOn '/').filter fun name => name ≠ [] ∧ name ≠ ['.']).map ofName

def places (t : FileTree) : List WildStep → Location → List Location
  | [], here => [here]
  | .outwards :: rest, here => places t rest here.tail
  | .anyDepth :: rest, here => (t.directoriesWithin here).flatMap (places t rest)
  | .name s :: rest, here => if t.has (s :: here) then places t rest (s :: here) else []
  | .wild pattern :: rest, here =>
    ((t.children here).filter fun place => Wild.accepts pattern (place.headD "").toList).flatMap (places t rest)

end WildStep
end AsmScope
