import AsmScope.Decimal.Shortest
import AsmScope.Document.Value
import AsmScope.Text.Quoted

/-! The text of a value inside a message. A string alone stands as it is; inside a list or table it is quoted. -/

namespace AsmScope.Value
open AsmScope.Text

def nothing : String := "None"

def boolWord (b : Bool) : String := if b then "True" else "False"

mutual
def inner : Value → String
  | .null => nothing
  | .bool b => boolWord b
  | .int n => toString n
  | .double x => x.text
  | .string s => quoted s
  | .moment s => s
  | .list [] => "[]"
  | .list (v :: rest) => "[" ++ inner v ++ innerItems rest ++ "]"
  | .table [] => "\x7b\x7d"
  | .table ((key, v) :: rest) => "\x7b" ++ quoted key ++ ": " ++ inner v ++ innerFields rest ++ "\x7d"

def innerItems : List Value → String
  | [] => ""
  | v :: rest => ", " ++ inner v ++ innerItems rest

def innerFields : List (String × Value) → String
  | [] => ""
  | (key, v) :: rest => ", " ++ quoted key ++ ": " ++ inner v ++ innerFields rest
end

def display : Value → String
  | .string s => s
  | v => inner v

end AsmScope.Value
