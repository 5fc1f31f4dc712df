import AsmScope.Decimal.Shortest
import AsmScope.Document.Value
import AsmScope.Text.Escaped

/-! Writing a value as JSON. A layout says what stands between items, whether each item has a line of its own,
and whether all is ASCII. -/

namespace AsmScope.Json
open AsmScope.Text

structure Layout where
  indent : Option Nat
  comma : List Char
  colon : List Char
  ascii : Bool
  deriving DecidableEq, Repr

def compact : Layout := ⟨none, [','], [':'], true⟩

def spaced : Layout := ⟨none, [',', ' '], [':', ' '], true⟩

def indented (width : Nat) (ascii : Bool) : Layout := ⟨some width, [','], [':', ' '], ascii⟩

def Layout.newLine (layout : Layout) (depth : Nat) : List Char :=
  match layout.indent with
  | none => []
  | some width => '\n' :: List.replicate (width * depth) ' '

def writeString (layout : Layout) (s : String) : List Char :=
  '"' :: (escape layout.ascii s.toList ++ ['"'])

def writeDouble (x : Double) : List Char :=
  if x.isNan then "NaN".toList
  else if !x.isFinite then (if x.isNegative then "-Infinity" else "Infinity").toList
  else x.text.toList

mutual
def write (layout : Layout) (depth : Nat) : Value → List Char
  | .null => "null".toList
  | .bool b => (if b then "true" else "false").toList
  | .int n => (toString n).toList
  | .double x => writeDouble x
  | .string s => writeString layout s
  | .moment s => writeString layout s
  | .list [] => "[]".toList
  | .list (v :: rest) =>
    '[' :: (layout.newLine (depth + 1) ++ write layout (depth + 1) v
      ++ writeItems layout (depth + 1) rest ++ layout.newLine depth ++ [']'])
  | .table [] => "\x7b\x7d".toList
  | .table ((key, v) :: rest) =>
    '\x7b' :: (layout.newLine (depth + 1) ++ writeString layout key ++ layout.colon
      ++ write layout (depth + 1) v ++ writeFields layout (depth + 1) rest ++ layout.newLine depth ++ ['\x7d'])

def writeItems (layout : Layout) (depth : Nat) : List Value → List Char
  | [] => []
  | v :: rest =>
    layout.comma ++ layout.newLine depth ++ write layout depth v ++ writeItems layout depth rest

def writeFields (layout : Layout) (depth : Nat) : List (String × Value) → List Char
  | [] => []
  | (key, v) :: rest =>
    layout.comma ++ layout.newLine depth ++ writeString layout key ++ layout.colon
      ++ write layout depth v ++ writeFields layout depth rest
end

def render (layout : Layout) (v : Value) : String := String.ofList (write layout 0 v)

def renderSorted (indent : Option Nat) (v : Value) : String :=
  render (match indent with | none => compact | some width => indented width true) v.sortKeys

end AsmScope.Json
