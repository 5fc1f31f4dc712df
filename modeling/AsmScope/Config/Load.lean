import AsmScope.Compile.Failure
import AsmScope.Config.Merge
import AsmScope.Document.TomlReader
import AsmScope.Files.Tree
import AsmScope.Settings.Sections

/-! Loading the configuration. The shipped document is always read; over it is laid the one that is asked for, or
the one that the environment names, or the user's own if there is one. A document that is asked for and is not
there changes nothing. Sections are checked in a fixed order, and the first that is wrong is reported. -/

namespace AsmScope.Config

def shipped : Fields :=
  [("limits", .table [("max_concurrent_jobs", .int 2), ("compile_timeout_ms", .int 10000),
      ("max_output_bytes", .int 5000), ("max_asm_bytes", .int 8388608), ("max_asm_lines", .int 500000),
      ("cache_capacity_bytes", .int 67108864), ("remote_timeout_secs", .double (Double.ofInt 30))]),
    ("compilation", .table [("compile_filename", .string "example.cpp"), ("stub_re", .string "\\bmain\\b"),
      ("stub_text", .string "int main(void) \x7b return 0; /* stub provided by cexplorer */ \x7d"),
      ("compile_to_binary", .string ""), ("compiler_wrapper", .string ""), ("wine", .string "/usr/bin/wine"),
      ("objdump", .string "objdump")]),
    ("workspace", .table [("prefix", .string "cexplorer-"), ("cleanup_interval_secs", .int 600)]),
    ("output", .table [("verbosity", .string "normal")]),
    ("compilers", .list [
      .table [("id", .string "gcc"), ("name", .string "GCC (system)"), ("exe", .string "/usr/bin/g++"),
        ("intel_asm", .string "-masm=intel"), ("supports_binary", .bool true)],
      .table [("id", .string "clang"), ("name", .string "Clang (system)"), ("exe", .string "/usr/bin/clang++"),
        ("intel_asm", .string "-mllvm --x86-asm-syntax=intel"), ("supports_binary", .bool true)]])]

inductive LoadError where
  | notToml
  | longInteger (digits : Nat)
  | failed (cause : Failure)
  deriving DecidableEq, Repr

/-- What is found on the machine: texts by their paths, variables, the user's home, and where the user's own document
would be. -/
structure Surroundings where
  files : FileTree
  environment : List (String × String)
  home : String
  userPath : String
  deriving DecidableEq, Repr

namespace Surroundings

def file? (s : Surroundings) (path : String) : Except LoadError (Option String) :=
  match s.files.read (Path.normal path) with
  | .ok data => .ok (some (Text.decoded data))
  | .error .notFound | .error .notDirectory | .error .nullByte => .ok none
  | .error fault => .error (.failed (.file ⟨fault, Path.normal path⟩))

def valueOf? (s : Surroundings) (name : String) : Option String := s.environment.lookup name

def given? (s : Surroundings) (name : String) : Option String :=
  (s.valueOf? name).filter fun value => !value.isEmpty

def pathVariable : String := "CEXPLORER_CONFIG"

def multiarchVariable : String := "CEXPLORER_MULTIARCH"

def namedPath (s : Surroundings) : Except LoadError String :=
  match s.given? pathVariable with
  | none => .ok s.userPath
  | some path =>
    match Path.expanded? s.home path with
    | some path => .ok path
    | none => .error (.failed (.fault Path.unknownHome))

def path (s : Surroundings) (asked : Option String) : Except LoadError String :=
  match asked.filter fun path => !path.isEmpty with
  | some path => .ok path
  | none => s.namedPath

def checked (fields : Fields) : Except LoadError Fields :=
  match (Value.table fields).integers.find? fun n => Text.maxDigits < Double.digitCount n.natAbs with
  | some n => .error (.longInteger (Double.digitCount n.natAbs))
  | none => .ok fields

def document (s : Surroundings) (asked : Option String) : Except LoadError Fields :=
  match (s.path asked).bind s.file? with
  | .error e => .error e
  | .ok none => .ok (merge [] shipped)
  | .ok (some text) =>
    match Toml.read? text with
    | some fields => (checked fields).map (merge (merge [] shipped))
    | none => .error .notToml

end Surroundings

def section? {α : Type} (data : Fields) (key : String) (read : Value → Validated α) (fallback : α) :
    Except LoadError α :=
  match Fields.get? data key with
  | none => .ok fallback
  | some v =>
    match read v with
    | .valid a => .ok a
    | .invalid problems => .error (.failed (.malformed problems))

/-- What a list of descriptors is made of. A text is made of texts, a table of its keys. -/
def itemsOf : Value → Except Failure (List Value)
  | .list items => .ok items
  | .string s => .ok (s.toList.map fun c => .string (String.ofList [c]))
  | .table fields => .ok (fields.map fun field => .string field.1)
  | .bool _ => .error (.notIterable "bool")
  | .int _ => .error (.notIterable "int")
  | .double _ => .error (.notIterable "float")
  | .moment _ => .error (.notIterable "datetime")
  | .null => .error (.notIterable "NoneType")

/-- Descriptors are checked one after the other, up to the first that is wrong. -/
def compilersOf (data : Fields) : Except LoadError (List CompilerSettings) :=
  match Fields.get? data "compilers" with
  | none => .ok []
  | some v =>
    match itemsOf v with
    | .error cause => .error (.failed cause)
    | .ok items =>
      match Validated.each CompilerSettings.ofValue items with
      | .valid compilers => .ok compilers
      | .invalid problems => .error (.failed (.malformed problems))

def isUnset : Option String → Bool
  | some s => s.isEmpty
  | none => true

/-- A name that is set by the environment is used where the document sets none. -/
def withMultiarch (given : Option String) (c : CompilationSettings) : CompilationSettings :=
  match given with
  | some triple => if isUnset c.multiarch && !triple.isEmpty then { c with multiarch := some triple } else c
  | none => c

def ofDocument (data : Fields) (multiarch : Option String) : Except LoadError AppConfig := do
  let limits ← section? data "limits" LimitSettings.ofValue {}
  let compilation ← section? data "compilation" CompilationSettings.ofValue {}
  let workspace ← section? data "workspace" WorkspaceSettings.ofValue {}
  let output ← section? data "output" OutputSettings.ofValue {}
  let compilers ← compilersOf data
  return ⟨limits, withMultiarch multiarch compilation, workspace, output, compilers, data⟩

def load (s : Surroundings) (asked : Option String) : Except LoadError AppConfig := do
  let data ← s.document asked
  ofDocument data (s.given? Surroundings.multiarchVariable)

end AsmScope.Config
