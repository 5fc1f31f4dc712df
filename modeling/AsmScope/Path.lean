/-! File paths, held as a root and the names below it. An empty name and a single point name nothing and are
dropped; two points are kept. Two slashes at the beginning are a root of their own, three or more are one. A first
name can stand for a home. -/

namespace AsmScope

structure Path where
  root : String
  names : List String
  deriving DecidableEq, Repr

namespace Path

def rootOf : List Char → String
  | '/' :: '/' :: '/' :: _ => "/"
  | '/' :: '/' :: _ => "//"
  | '/' :: _ => "/"
  | _ => ""

def namesOf (s : List Char) : List String :=
  ((s.splitOn '/').filter fun name => name ≠ [] ∧ name ≠ ['.']).map String.ofList

def ofString (s : String) : Path := ⟨rootOf s.toList, namesOf s.toList⟩

def text (p : Path) : String :=
  if p.root = "" ∧ p.names = [] then "." else p.root ++ String.intercalate "/" p.names

/-- A path with a root of its own takes the place of the one it is put under. -/
def join (p q : Path) : Path := if q.root = "" then ⟨p.root, p.names ++ q.names⟩ else q

def name (p : Path) : String := p.names.getLastD ""

end Path

def Path.normal (s : String) : String := (Path.ofString s).text

def Path.unknownHome : String := "Could not determine home directory."

/-- The path with one's own home in the place of a first name that stands for it. Nobody else's home is known. -/
def Path.expanded? (home path : String) : Option String :=
  let p := Path.ofString path
  match p.root, p.names with
  | "", name :: rest =>
    if name = "~" then some ((Path.ofString home).join ⟨"", rest⟩).text
    else if name.toList.head? = some '~' then none
    else some p.text
  | _, _ => some p.text

def Path.parent (s : String) : String :=
  let p := Path.ofString s
  Path.text ⟨p.root, p.names.dropLast⟩

def Path.under (directory file : String) : String :=
  ((Path.ofString directory).join (Path.ofString file)).text

end AsmScope
