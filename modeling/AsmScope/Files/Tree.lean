import AsmScope.Files.Fault
import AsmScope.Path
import AsmScope.Text.Utf8

/-! A tree of files. A place is given by its names from the innermost outwards, so the place around it is its tail.
A path is walked name by name; two points lead outwards from where the walk has come to, and every place on the way
has to be a directory. Whatever changes in a directory marks it with the time of the change. -/

namespace AsmScope
open AsmScope.Text

abbrev Location := List String

structure FileNode where
  /-- The octets of a plain file; a directory has none. -/
  content : Option Octets
  modified : Int
  deriving DecidableEq, Repr

structure FileTree where
  nodes : List (Location × FileNode)
  deriving DecidableEq, Repr

def nanosPerSecond : Int := 1000000000

namespace FileTree

/-- Where paths begin that have no root of their own. -/
def home : Location := ["home", "tmp"]

def empty (now : Int) : FileTree := ⟨[([], ⟨none, now⟩), (["tmp"], ⟨none, now⟩), (home, ⟨none, now⟩)]⟩

def node? (t : FileTree) (place : Location) : Option FileNode := t.nodes.lookup place

def has (t : FileTree) (place : Location) : Bool := (t.node? place).isSome

def isDirectory (t : FileTree) (place : Location) : Bool := (t.node? place).any fun n => n.content.isNone

/-- A node keeps its place in the list when it is replaced, so a directory comes before what is in it. -/
def put (t : FileTree) (place : Location) (n : FileNode) : FileTree :=
  if t.has place then ⟨t.nodes.map fun entry => if entry.1 = place then (place, n) else entry⟩
  else ⟨t.nodes ++ [(place, n)]⟩

def setTime (t : FileTree) (place : Location) (time : Int) : FileTree :=
  match t.node? place with
  | some n => t.put place { n with modified := time }
  | none => t

def isWithin (outer inner : Location) : Bool := outer.isSuffixOf inner

def children (t : FileTree) (place : Location) : List Location :=
  (t.nodes.map Prod.fst).filter fun inner => inner != [] && inner.tail == place

def childNames (t : FileTree) (place : Location) : List String := (t.children place).map (·.headD "")

def directoriesWithin (t : FileTree) (place : Location) : List Location :=
  (t.nodes.filter fun entry => entry.2.content.isNone && isWithin place entry.1).map Prod.fst

def maxNameLength : Nat := 255

def maxPathLength : Nat := 4095

def walk (t : FileTree) : Location → List String → Except FileFault Location
  | here, [] => .ok here
  | here, name :: rest =>
    if !t.has here then .error .notFound
    else if !t.isDirectory here then .error .notDirectory
    else if name = "" ∨ name = "." then walk t here rest
    else if name = ".." then walk t here.tail rest
    else if maxNameLength < name.utf8ByteSize then .error .nameTooLong
    else walk t (name :: here) rest

def locate (t : FileTree) (path : String) : Except FileFault Location :=
  let names := (path.toList.splitOn '/').map String.ofList
  if path.toList.contains (Char.ofNat 0) then .error .nullByte
  else if path.isEmpty then .error .notFound
  else if maxPathLength < path.utf8ByteSize then .error .nameTooLong
  else t.walk (if path.toList.head? = some '/' then [] else home) names

def existing (t : FileTree) (path : String) : Except FileFault (Location × FileNode) :=
  (t.locate path).bind fun place =>
    match t.node? place with
    | some n => .ok (place, n)
    | none => .error .notFound

def isDirectoryAt (t : FileTree) (path : String) : Bool :=
  match t.existing path with
  | .ok (_, n) => n.content.isNone
  | .error _ => false

def read (t : FileTree) (path : String) : Except FileFault Octets :=
  (t.existing path).bind fun found =>
    match found.2.content with
    | some data => .ok data
    | none => .error .isDirectory

/-- A file that is written anew is a change in its directory. -/
def write (t : FileTree) (now : Int) (path : String) (data : Octets) : Except FileFault FileTree :=
  (t.locate path).bind fun place =>
    let file : FileNode := ⟨some data, now⟩
    match t.node? place with
    | some n => if n.content.isNone then .error .isDirectory else .ok (t.put place file)
    | none => .ok ((t.put place file).setTime place.tail now)

def makeDirectory (t : FileTree) (now : Int) (path : String) : Except FileFault (Location × FileTree) :=
  (t.locate path).bind fun place =>
    if t.has place then .error .alreadyThere else .ok (place, (t.put place ⟨none, now⟩).setTime place.tail now)

def ensureDirectory (t : FileTree) (now : Int) (path : String) : Except FileError FileTree :=
  match t.makeDirectory now path with
  | .ok (_, t) => .ok t
  | .error fault => if t.isDirectoryAt path then .ok t else .error ⟨fault, path⟩

/-- A directory with all that are missing around it; the names are given from the innermost outwards. -/
def ensureFrom (now : Int) (root : String) : List String → FileTree → Except FileError FileTree
  | [], t => .ok t
  | name :: outer, t =>
    let path := Path.text ⟨root, (name :: outer).reverse⟩
    match t.ensureDirectory now path with
    | .error ⟨.notFound, _⟩ => (ensureFrom now root outer t).bind fun t => t.ensureDirectory now path
    | outcome => outcome

def ensureAll (t : FileTree) (now : Int) (path : String) : Except FileError FileTree :=
  ensureFrom now (Path.ofString path).root (Path.ofString path).names.reverse t

/-- A directory goes with all that is in it. One that paths begin at stays, empty. -/
def removeAt (t : FileTree) (now : Int) (place : Location) : FileTree :=
  let kept := fun entry : Location × FileNode => !isWithin place entry.1 || isWithin entry.1 home
  setTime ⟨t.nodes.filter kept⟩ place.tail now

def remove (t : FileTree) (now : Int) (path : String) : FileTree :=
  match t.existing path with
  | .ok (place, n) => if n.content.isNone then t.removeAt now place else t
  | .error _ => t

def names? (t : FileTree) (path : String) : Option (List String) :=
  match t.existing path with
  | .ok (place, n) => if n.content.isNone then some (t.childNames place) else none
  | .error _ => none

def ofFiles (now : Int) (files : List (String × String)) : FileTree :=
  files.foldl (fun t file =>
    let t := ((t.ensureAll now (Path.parent file.1)).toOption).getD t
    ((t.write now file.1 (encoded file.2)).toOption).getD t) (empty now)

end FileTree
end AsmScope
