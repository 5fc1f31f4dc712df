import AsmScope.Document.Value
import AsmScope.Text.Find
import AsmScope.Text.Numeral
import AsmScope.Tool.Supervision

/-! Described tools. A rule says which launches it is for and what they do: the octets on both streams, the exit
code, how long it takes, what becomes of a kill, a file that is written, or why nothing starts. -/

namespace AsmScope
open AsmScope.Text

inductive Piece where
  | template (text : String)
  | octets (data : Octets)
  deriving DecidableEq, Repr

structure Rule where
  program : Option String
  shell : Option String
  arg : Option String
  source : Option String
  refusal : Option SystemError
  output : Option (List Piece)
  stdout : List Piece
  stderr : List Piece
  code : Int
  /-- After how many milliseconds the tool exits by itself, if it ever does. -/
  lifetime : Option Nat
  killFails : Bool
  streams : Bool
  deriving DecidableEq, Repr

namespace Piece

def hexOctets : List Char → Octets
  | a :: b :: r =>
    UInt8.ofNat (hexDigitValue a.toLower * 16 + hexDigitValue b.toLower) :: hexOctets r
  | _ => []

def repeated (unit : Octets) (times : Nat) : Octets := (List.replicate times unit).flatten

def ofFields (fields : Fields) : Octets :=
  match Fields.get? fields "hex", Fields.get? fields "repeat", Fields.get? fields "times" with
  | some (.string s), _, _ => hexOctets s.toList
  | _, some (.string s), some (.int n) => repeated (encoded s) n.toNat
  | _, _, _ => []

mutual
def chunksOf : Value → List Octets
  | .string s => [encoded s]
  | .table fields => [ofFields fields]
  | .list items => chunksOfItems items
  | _ => []

def chunksOfItems : List Value → List Octets
  | [] => []
  | v :: rest => chunksOf v ++ chunksOfItems rest
end

def ofValue : Value → List Piece
  | .string s => [.template s]
  | v => (chunksOf v).map .octets

def fill (input output : String) (s : String) : String :=
  let s := replaceAll "$IN".toList input.toList s.toList
  String.ofList (replaceAll "$OUT".toList output.toList s)

def data (input output : String) : Piece → Octets
  | .template s => encoded (fill input output s)
  | .octets o => o

def plainData : Piece → Octets
  | .template s => encoded s
  | .octets o => o

end Piece

def SystemError.ofValue (v : Value) : SystemError :=
  match v.field? "message", v.field? "errno" with
  | some (.string s), _ => .worded s
  | _, some (.int n) =>
    .numbered n (match v.field? "strerror" with | some (.string s) => s | _ => SystemError.standardText n)
  | _, _ => .numbered 0 ""

namespace Rule

def string? (v : Value) (key : String) : Option String :=
  match v.field? key with
  | some (.string s) => some s
  | _ => none

def isSet (v : Value) (key : String) : Bool := ((v.field? key).map Value.isGiven).getD false

def pieces (v : Value) (key : String) : List Piece := ((v.field? key).map Piece.ofValue).getD []

def int (v : Value) (key : String) : Int :=
  match v.field? key with
  | some (.int n) => n
  | _ => 0

def ofValue (v : Value) : Rule where
  program := string? v "program"
  shell := string? v "shell"
  arg := string? v "arg"
  source := string? v "source"
  refusal := (v.field? "oserror").map SystemError.ofValue
  output := (v.field? "output").map Piece.ofValue
  stdout := pieces v "stdout"
  stderr := pieces v "stderr"
  code := int v "code"
  lifetime := if isSet v "hang" then none else some (int v "delay_ms").toNat
  killFails := isSet v "kill_error"
  streams := match v.field? "pipes" with | some (.bool b) => b | _ => true

def allows (wanted : Option String) (test : String → Bool) : Bool := (wanted.map test).getD true

def isFor (r : Rule) (command : ToolCommand) (source : Option String) : Bool :=
  (match command with
    | .exec program args => allows r.program (· == program) && r.shell.isNone && allows r.arg args.contains
    | .shell line => r.program.isNone && allows r.shell (fun part => occursIn part.toList line.toList)
        && r.arg.isNone)
  && allows r.source fun part => (source.map fun s => occursIn part.toList s.toList).getD false

def killedCode : Int := -9

/-- The code after a kill. One that fails lets the tool end by itself at that moment. -/
def codeAfterKill (r : Rule) : Int := if r.killFails then r.code else killedCode

def chunks (stream : Stream) (data : List Octets) : List ToolEvent := data.map (.chunk stream ·)

def streamsClosed : List ToolEvent := [.closed .out, .closed .err]

def written (r : Rule) (budget : Budget) (input output : String) : Supervision :=
  let data := fun pieces : List Piece => pieces.map (Piece.data input output)
  (Supervision.start budget.maxOutput r.streams (if r.lifetime = some 0 then some r.code else none)).run
    (chunks .out (data r.stdout) ++ chunks .err (data r.stderr))

/-- What happens from then on, and after how many milliseconds it is over. A tool that exits just when its time
is over exits by itself, and is late all the same. -/
def ending (r : Rule) (budget : Budget) (s : Supervision) : List ToolEvent × Nat :=
  let (life, code) := if s.killSent then (some 0, r.codeAfterKill) else (r.lifetime, r.code)
  match life with
  | some ms =>
    if ms < budget.timeoutMs then (.exited code :: streamsClosed, ms)
    else if ms = budget.timeoutMs then (.deadline :: .exited code :: streamsClosed, ms)
    else (.deadline :: .exited r.codeAfterKill :: streamsClosed, budget.timeoutMs)
  | none => (.deadline :: .exited r.codeAfterKill :: streamsClosed, budget.timeoutMs)

def perform (r : Rule) (budget : Budget) (input output : String) : ToolOutput × Nat :=
  let s := r.written budget input output
  let (events, ms) := r.ending budget s
  ((s.run events).output, ms)

end Rule
end AsmScope
