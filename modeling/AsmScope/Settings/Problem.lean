import AsmScope.Text.Quoted

/-! What can be wrong with given data, and answers that gather everything wrong at once. A problem has a place,
the keys and indices that lead to it, and a fault. Two answers are combined by keeping the problems of both. -/

namespace AsmScope

inductive Fault where
  | missing
  | notBool
  | unreadableBool
  | notInt
  | infinite
  | fractionalInt
  | unreadableInt
  | longInt
  | notAbove (bound : Int)
  | below (bound : Int)
  | notNumber
  | unreadableNumber
  | notString
  | notPath
  | notList
  | notTable
  | notTuple
  | notConverter
  | notRecord (name : String)
  | noProgram (id : String)
  deriving DecidableEq, Repr

namespace Fault

def code : Fault → String
  | .missing => "missing"
  | .notBool => "bool_type"
  | .unreadableBool => "bool_parsing"
  | .notInt => "int_type"
  | .infinite => "finite_number"
  | .fractionalInt => "int_from_float"
  | .unreadableInt => "int_parsing"
  | .longInt => "int_parsing_size"
  | .notAbove _ => "greater_than"
  | .below _ => "greater_than_equal"
  | .notNumber => "float_type"
  | .unreadableNumber => "float_parsing"
  | .notString => "string_type"
  | .notPath => "path_type"
  | .notList => "list_type"
  | .notTable => "dict_type"
  | .notTuple => "tuple_type"
  | .notConverter => "literal_error"
  | .notRecord _ => "model_type"
  | .noProgram _ => "value_error"

def message : Fault → String
  | .missing => "Field required"
  | .notBool => "Input should be a valid boolean"
  | .unreadableBool => "Input should be a valid boolean, unable to interpret input"
  | .notInt => "Input should be a valid integer"
  | .infinite => "Input should be a finite number"
  | .fractionalInt => "Input should be a valid integer, got a number with a fractional part"
  | .unreadableInt => "Input should be a valid integer, unable to parse string as an integer"
  | .longInt => "Unable to parse input string as an integer, exceeded maximum size"
  | .notAbove bound => "Input should be greater than " ++ toString bound
  | .below bound => "Input should be greater than or equal to " ++ toString bound
  | .notNumber => "Input should be a valid number"
  | .unreadableNumber => "Input should be a valid number, unable to parse string as a number"
  | .notString => "Input should be a valid string"
  | .notPath => "Input is not a valid path for <class 'pathlib.Path'>"
  | .notList => "Input should be a valid list"
  | .notTable => "Input should be a valid dictionary"
  | .notTuple => "Input should be a valid tuple"
  | .notConverter => "Input should be 'numbered-trace'"
  | .notRecord name => "Input should be a valid dictionary or instance of " ++ name
  | .noProgram id => "Value error, compiler " ++ Text.quoted id ++ " needs either exe or remote"

end Fault

structure Problem where
  place : List String
  fault : Fault
  deriving DecidableEq, Repr

def Problem.under (key : String) (p : Problem) : Problem := { p with place := key :: p.place }

inductive Validated (α : Type) where
  | valid (value : α)
  | invalid (problems : List Problem)
  deriving Repr

namespace Validated
variable {α β : Type}

def fault (f : Fault) : Validated α := .invalid [⟨[], f⟩]

def map (f : α → β) : Validated α → Validated β
  | .valid a => .valid (f a)
  | .invalid ps => .invalid ps

/-- Both sides are read, whatever the other says. -/
def seq : Validated (α → β) → Validated α → Validated β
  | .valid f, .valid a => .valid (f a)
  | .valid _, .invalid ps => .invalid ps
  | .invalid ps, .valid _ => .invalid ps
  | .invalid ps, .invalid qs => .invalid (ps ++ qs)

instance : Applicative Validated where
  pure := .valid
  seq f a := seq f (a ())

/-- The second reading is done only on a value of the first. -/
def andThen (f : α → Validated β) : Validated α → Validated β
  | .valid a => f a
  | .invalid ps => .invalid ps

def under (key : String) : Validated α → Validated α
  | .valid a => .valid a
  | .invalid ps => .invalid (ps.map (Problem.under key))

def all (read : α → Validated β) : Nat → List α → Validated (List β)
  | _, [] => .valid []
  | index, a :: rest =>
    seq (map List.cons ((read a).under (toString index))) (all read (index + 1) rest)

def each (read : α → Validated β) : List α → Validated (List β)
  | [] => .valid []
  | a :: rest => (read a).andThen fun b => map (b :: ·) (each read rest)

end Validated
end AsmScope
