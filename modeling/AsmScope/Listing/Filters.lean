import AsmScope.Document.Value

/-! The six switches of a listing. Each is off unless it is asked for, and none depends on another. -/

namespace AsmScope

structure Filters where
  directives : Bool := false
  labels : Bool := false
  commentOnly : Bool := false
  binary : Bool := false
  intel : Bool := false
  trim : Bool := false
  deriving DecidableEq, Repr

def Filters.fields (f : Filters) : Fields :=
  [("binary", .bool f.binary), ("commentOnly", .bool f.commentOnly), ("directives", .bool f.directives),
    ("intel", .bool f.intel), ("labels", .bool f.labels), ("trim", .bool f.trim)]

def Filters.toValue (f : Filters) : Value := .table f.fields

end AsmScope
