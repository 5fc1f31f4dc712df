import AsmScope.Path
import AsmScope.Rehearsal.Rule
import AsmScope.Settings.Sections
import AsmScope.Text.Lines
import AsmScope.Text.Utf8

/-! A look at the machine: which of the configured tools are there, what they call themselves, and the name of the
architecture. A compiler or an emulator that is not there is an issue; the disassembler and the name of the
architecture are only worth a note. -/

namespace AsmScope
open AsmScope.Text

/-- A command of the machine: where it lies, and what it answers to a single argument. A command that fails, runs
too long or does not start has no answer. -/
structure HostCommand where
  name : String
  path : Option String
  answers : List (String × Octets)
  deriving DecidableEq, Repr

namespace HostCommand

def answer? (v : Value) : Option Octets :=
  match v with
  | .null => none
  | v => if (v.field? "fail").isSome then none else some ((Piece.ofValue v).flatMap Piece.plainData)

def ofField (field : String × Value) : HostCommand where
  name := field.1
  path := Rule.string? field.2 "path"
  answers := match field.2 with
    | .table fields => fields.filterMap fun entry => (answer? entry.2).map fun data => (entry.1, data)
    | _ => []

def all (v : Value) : List HostCommand :=
  match v with
  | .table fields => fields.map ofField
  | _ => []

end HostCommand

structure ToolCheck where
  name : String
  command : Option String
  version : Option String
  path : Option String
  deriving DecidableEq, Repr

def ToolCheck.isAvailable (t : ToolCheck) : Bool := t.command.isSome

structure EnvironmentReport where
  multiarch : Option String
  tools : List ToolCheck
  issues : List String
  notes : List String
  deriving DecidableEq, Repr

namespace EnvironmentReport

def answer? (commands : List HostCommand) (command argument : String) : Option (List Char) :=
  (commands.find? fun c => c.name = command).bind fun c => (c.answers.lookup argument).map decode

def place? (commands : List HostCommand) (command : String) : Option String :=
  ((commands.find? fun c => c.name = command).bind HostCommand.path).filter fun p => !p.isEmpty

def version? (commands : List HostCommand) (command : String) : Option String :=
  (answer? commands command "--version").bind fun text =>
    (allLines text).head?.map fun line => String.ofList (trim line)

def check (commands : List HostCommand) (name command : String) : ToolCheck :=
  match place? commands command with
  | none => ⟨name, none, none, none⟩
  | some path => ⟨name, some command, version? commands command, some (Path.normal path)⟩

def probedMultiarch (commands : List HostCommand) : Option String :=
  ((answer? commands "gcc" "-print-multiarch").map fun text => String.ofList (trim text)).filter
    fun triple => !triple.isEmpty

def localCompilers (config : AppConfig) : List CompilerSettings :=
  config.compilers.filter fun c => !c.isRemote

def compilerChecks (commands : List HostCommand) (config : AppConfig) : List ToolCheck :=
  (localCompilers config).map fun c => check commands c.id (c.exe.getD "")

def compilerIssues (commands : List HostCommand) (config : AppConfig) : List String :=
  (localCompilers config).filterMap fun c =>
    let exe := c.exe.getD ""
    if (check commands c.id exe).isAvailable then none
    else some ("Compiler " ++ c.id ++ " not found: " ++ exe)

def needsWine (config : AppConfig) : Bool := (localCompilers config).any CompilerSettings.needsWine

def needsMultiarch (config : AppConfig) : Bool := (localCompilers config).any CompilerSettings.needsMultiarch

def noObjdump : String := "objdump not found; binary mode will report <No output: ...>."

def noMultiarch : String := "Unable to determine multiarch triple; LIBRARY_PATH will not be set."

/-- The configured name is taken as it is, also an empty one; the system's is asked for only where it is needed. -/
def multiarchOf (commands : List HostCommand) (config : AppConfig) : Option String :=
  match config.compilation.multiarch with
  | some triple => some triple
  | none => if needsMultiarch config then probedMultiarch commands else none

def survey (commands : List HostCommand) (config : AppConfig) : EnvironmentReport :=
  let settings := config.compilation
  let objdump := check commands "objdump" settings.objdump
  let wine := if needsWine config then [check commands "wine" settings.wine] else []
  let wrapper := if settings.wrapper.isEmpty then [] else [check commands "compiler_wrapper" settings.wrapper]
  let multiarch := multiarchOf commands config
  { multiarch := multiarch
    tools := compilerChecks commands config ++ [objdump] ++ wine ++ wrapper
    issues := compilerIssues commands config
      ++ (wine.filter fun t => !t.isAvailable).map fun _ => "Wine not found at " ++ settings.wine
    notes := (if objdump.isAvailable then [] else [noObjdump])
      ++ (if multiarch.isNone && needsMultiarch config then [noMultiarch] else []) }

def missing (r : EnvironmentReport) : List String :=
  (r.tools.filter fun t => !t.isAvailable).map ToolCheck.name

def isAvailable (r : EnvironmentReport) (name : String) : Bool :=
  r.tools.any fun t => t.name == name && t.isAvailable

def apply (r : EnvironmentReport) (config : AppConfig) : AppConfig :=
  match r.multiarch with
  | none => config
  | some triple =>
    if (config.compilation.multiarch.getD "").isEmpty && !triple.isEmpty then
      { config with compilation := { config.compilation with multiarch := some triple } }
    else config

theorem isAvailable_iff (r : EnvironmentReport) (name : String) :
    r.isAvailable name = true ↔ ∃ t ∈ r.tools, t.name = name ∧ t.isAvailable = true := by
  simp [isAvailable, List.any_eq_true]

end EnvironmentReport
end AsmScope
