import AsmScope.Decimal.Double

/-! The values that a document holds: what a JSON or TOML text says, and what the program writes.
A table keeps the order in which its keys came; writing a key again changes its value and not its place.
A moment is a date or a time, held as its text. -/

namespace AsmScope

inductive Value where
  | null
  | bool (b : Bool)
  | int (n : Int)
  | double (x : Double)
  | string (s : String)
  | moment (s : String)
  | list (items : List Value)
  | table (fields : List (String × Value))
  deriving Repr, BEq

abbrev Fields := List (String × Value)

namespace Fields

def get? (fields : Fields) (key : String) : Option Value := fields.lookup key

def insert (fields : Fields) (key : String) (value : Value) : Fields :=
  match fields with
  | [] => [(key, value)]
  | (k, v) :: rest => if k = key then (k, value) :: rest else (k, v) :: insert rest key value

def ofList (pairs : List (String × Value)) : Fields :=
  pairs.foldl (fun fields pair => insert fields pair.1 pair.2) []

theorem get?_cons (pair : String × Value) (rest : Fields) (key : String) :
    get? (pair :: rest) key = if key = pair.1 then some pair.2 else get? rest key := by
  obtain ⟨k, v⟩ := pair
  by_cases h : key = k
  · simp [get?, h]
  · have hb : (key == k) = false := by simpa using h
    rw [get?, List.lookup_cons]
    simp [h, hb, get?]

theorem get?_insert (fields : Fields) (key other : String) (value : Value) :
    get? (insert fields key value) other = if other = key then some value else get? fields other := by
  induction fields with
  | nil => simp [insert, get?_cons]
  | cons pair rest ih =>
    by_cases hk : pair.1 = key
    · simp only [insert, hk, if_true, get?_cons]
      split <;> rfl
    · simp only [insert, hk, if_false, get?_cons, ih]
      by_cases ho : other = pair.1
      · simp [ho, hk]
      · simp [ho]

end Fields

namespace Value

def strings (texts : List String) : Value := .list (texts.map .string)

def ofString? : Option String → Value
  | none => .null
  | some s => .string s

def ofNat (n : Nat) : Value := .int n

def field? : Value → String → Option Value
  | .table fields, key => Fields.get? fields key
  | _, _ => none

def isGiven : Value → Bool
  | .null => false
  | .bool b => b
  | .int n => n != 0
  | .double x => !x.isZero
  | .string s => !s.isEmpty
  | .moment _ => true
  | .list items => !items.isEmpty
  | .table fields => !fields.isEmpty

mutual
def sortKeys : Value → Value
  | .list items => .list (sortItems items)
  | .table fields =>
    .table ((sortFields fields).mergeSort fun a b => !(decide (b.1 < a.1)))
  | v => v

def sortItems : List Value → List Value
  | [] => []
  | v :: rest => sortKeys v :: sortItems rest

def sortFields : List (String × Value) → List (String × Value)
  | [] => []
  | (key, v) :: rest => (key, sortKeys v) :: sortFields rest
end

mutual
def integers : Value → List Int
  | .int n => [n]
  | .list items => itemIntegers items
  | .table fields => fieldIntegers fields
  | _ => []

def itemIntegers : List Value → List Int
  | [] => []
  | v :: rest => integers v ++ itemIntegers rest

def fieldIntegers : List (String × Value) → List Int
  | [] => []
  | (_, v) :: rest => integers v ++ fieldIntegers rest
end

end Value
end AsmScope
