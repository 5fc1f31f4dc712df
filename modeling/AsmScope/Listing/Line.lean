import AsmScope.Document.Value

/-! The lines that a listing is shown as. A line has a text and may have a place in a source, an address, the
octets at that address, and links to other addresses. -/

namespace AsmScope.Listing

/-- A line of a source. No file means the source that was compiled. -/
structure SourceLocation where
  line : Int
  file : Option String
  deriving DecidableEq, Repr

/-- The part of a line's text that names an address, counted in characters. -/
structure Link where
  offset : Int
  length : Int
  target : Int
  deriving DecidableEq, Repr

structure Line where
  text : String
  source : Option SourceLocation := none
  address : Option Int := none
  opcodes : Option (List Int) := none
  links : List Link := []
  deriving DecidableEq, Repr

def SourceLocation.toValue (s : SourceLocation) : Value :=
  .table [("file", .ofString? s.file), ("line", .int s.line)]

def Link.toValue (l : Link) : Value :=
  .table [("offset", .int l.offset), ("length", .int l.length), ("to", .int l.target)]

def Line.toValue (l : Line) : Value :=
  .table ([("text", .string l.text), ("source", (l.source.map SourceLocation.toValue).getD .null)]
    ++ (match l.address with | some a => [("address", .int a)] | none => [])
    ++ (match l.opcodes with | some octets => [("opcodes", .list (octets.map .int))] | none => [])
    ++ (if l.links.isEmpty then [] else [("links", .list (l.links.map Link.toValue))]))

end AsmScope.Listing
