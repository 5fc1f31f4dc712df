import AsmScope.Compile.Diagnostic
import AsmScope.Document.Json
import AsmScope.Listing.Line

/-! Results of compile jobs. The assembly is a listing, or plain text if some tool ran out of time; such a
result is not kept. -/

namespace AsmScope
open AsmScope.Listing (Line)

inductive Assembly where
  | plain (text : String)
  | listing (lines : List Line)
  deriving DecidableEq, Repr

def Assembly.toValue : Assembly → Value
  | .plain text => .table [("text", .string text)]
  | .listing lines => .list (lines.map Line.toValue)

structure Result where
  code : Option Int
  stdout : List Diagnostic := []
  stderr : List Diagnostic := []
  asm : Assembly := .plain ""
  okToCache : Bool := true
  workspace : Option String := none
  deriving DecidableEq, Repr

namespace Result

def toValue (r : Result) : Value :=
  .table [("code", .int (r.code.getD (-1))), ("stdout", .list (r.stdout.map Diagnostic.toValue)),
    ("stderr", .list (r.stderr.map Diagnostic.toValue)), ("asm", r.asm.toValue),
    ("okToCache", .bool r.okToCache)]

/-- The octets of the written result and of its key. -/
def entrySize (key : String) (r : Result) : Nat :=
  (Json.renderSorted none r.toValue).utf8ByteSize + key.utf8ByteSize

def rejection (message : String) : Value :=
  .table [("code", .int (-1)), ("stdout", .list []), ("stderr", .list [.table [("text", .string message)]]),
    ("asm", .list [])]

end Result
end AsmScope
