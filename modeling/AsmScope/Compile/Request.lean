import AsmScope.Compile.Failure
import AsmScope.Document.Display
import AsmScope.Document.Json
import AsmScope.Settings.Sections

/-! Requests to compile. The options of a payload are a shell line or a list; the key of a request is its JSON
text with the names in order, so two requests have one key exactly if they agree in everything. -/

namespace AsmScope

structure Request where
  compiler : String
  source : String
  options : List String
  filters : Filters
  deriving DecidableEq, Repr

namespace Request

def optionsOf (given : Value) : Except Failure (List String) :=
  match given with
  | .string s =>
    match Shell.wordsOf s with
    | .ok words => .ok words
    | .error cause => .error (.unreadableOptions s cause)
  | .list items => .ok ((items.filter Value.isGiven).map Value.display)
  | .table fields => .ok ((fields.map Prod.fst).filter fun key => !key.isEmpty)
  | .moment s => .ok [s]
  | .bool _ => .error (.notIterable "bool")
  | .int _ => .error (.notIterable "int")
  | .double _ => .error (.notIterable "float")
  | .null => .ok []

def givenOr (fields : Fields) (key : String) (fallback : Value) : Value :=
  match Fields.get? fields key with
  | some v => if v.isGiven then v else fallback
  | none => fallback

def shown (fields : Fields) (key : String) : String := ((Fields.get? fields key).map Value.display).getD ""

def ofPayload (payload : Fields) : Except Failure Request := do
  let options ← optionsOf (givenOr payload "options" (.string ""))
  match Filters.ofValue (givenOr payload "filters" (.table [])) with
  | .valid filters => .ok ⟨shown payload "compiler", shown payload "source", options, filters⟩
  | .invalid problems => .error (.malformed problems)

def valueWith (r : Request) (filters : Value) : Value :=
  .table [("compiler", .string r.compiler), ("filters", filters),
    ("options", .strings r.options), ("source", .string r.source)]

def toValue (r : Request) : Value := r.valueWith r.filters.toValue

/-- The key under which results are kept and jobs are joined. -/
def key (r : Request) : String := Json.render Json.compact r.toValue

def changedFilters (r : Request) (changes : Fields) : Value :=
  .table (changes.foldl (fun fields change => Fields.insert fields change.1 change.2) r.filters.fields)

def changed (r : Request) (changes : Fields) : Value := r.valueWith (r.changedFilters changes)

def changedKey (r : Request) (changes : Fields) : String := Json.render Json.compact (r.changed changes).sortKeys

def withFilters (r : Request) (filters : Filters) : Request := { r with filters := filters }

end Request
end AsmScope
