import AsmScope.Settings.Reading

/-! The descriptor of one compiler. It has a program to run, or the address of another service to ask. -/

namespace AsmScope

structure CompilerSettings where
  id : String
  name : String := ""
  exe : Option String := none
  remote : Option String := none
  supportsBinary : Bool := true
  needsMultiarch : Bool := false
  needsWine : Bool := false
  isMsvc : Bool := false
  intelFlags : String := ""
  options : String := ""
  outputFlag : String := "-o"
  asmFlag : String := "-S"
  postProcess : List String := []
  tracesOutput : Bool := false
  deriving DecidableEq, Repr

namespace CompilerSettings
open Settings

def isNamed : Option String → Bool
  | some s => !s.isEmpty
  | none => false

def displayName (c : CompilerSettings) : String := if c.name.isEmpty then c.id else c.name

/-- A compiler is remote if it has an address and no program at all, not even an empty one. -/
def isRemote (c : CompilerSettings) : Bool := c.exe.isNone && isNamed c.remote

def traceName : String := "numbered-trace"

def converter : Value → Validated Bool
  | .null => .valid false
  | .string s => if s = traceName then .valid true else .fault .notConverter
  | _ => .fault .notConverter

def pipeline : Value → Validated (List String)
  | .string s => .valid (if s.isEmpty then [] else [s])
  | .list items => .all string 0 (items.filter Value.isGiven)
  | _ => .fault .notTuple

def fields (f : Fields) : Validated CompilerSettings :=
  CompilerSettings.mk <$> required f "id" string
    <*> fieldOr f "name" string ""
    <*> fieldOr f "exe" (optional string) none
    <*> fieldOr f "remote" (optional string) none
    <*> fieldOr f "supports_binary" bool true
    <*> fieldOr f "needs_multi" bool false
    <*> fieldOr f "needs_wine" bool false
    <*> fieldOr f "is_cl" bool false
    <*> fieldOr f "intel_asm" string ""
    <*> fieldOr f "options" string ""
    <*> fieldOr f "output_flag" string "-o"
    <*> fieldOr f "asm_flag" string "-S"
    <*> fieldOr f "post_process" pipeline []
    <*> fieldOr f "line_converter" converter false

/-- A descriptor with neither a program nor an address describes nothing. -/
def check (c : CompilerSettings) : Validated CompilerSettings :=
  if isNamed c.exe || isNamed c.remote then .valid c else .fault (.noProgram c.id)

def ofValue (v : Value) : Validated CompilerSettings :=
  record "CompilerSettings" (fun f => (fields f).andThen check) v

def toValue (c : CompilerSettings) : Value :=
  .table [("id", .string c.id), ("name", .string c.name), ("exe", .ofString? c.exe),
    ("remote", .ofString? c.remote), ("supports_binary", .bool c.supportsBinary),
    ("needs_multi", .bool c.needsMultiarch), ("needs_wine", .bool c.needsWine), ("is_cl", .bool c.isMsvc),
    ("intel_asm", .string c.intelFlags), ("options", .string c.options), ("output_flag", .string c.outputFlag),
    ("asm_flag", .string c.asmFlag), ("post_process", .strings c.postProcess),
    ("line_converter", if c.tracesOutput then .string traceName else .null)]

end CompilerSettings
end AsmScope
