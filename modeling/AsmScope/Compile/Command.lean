import AsmScope.Settings.Sections

/-! Command lines. A family of compilers has its own arguments; a compiler for another system runs under an
emulator that sees paths on its own drive, and a wrapper runs whatever it is given. -/

namespace AsmScope

structure CommandLine where
  program : String
  args : List String
  deriving DecidableEq, Repr

def CommandLine.argv (c : CommandLine) : List String := c.program :: c.args

def CommandLine.text (c : CommandLine) : String := String.intercalate " " c.argv

structure Invocation where
  options : List String
  filters : Filters
  input : String
  output : String
  deriving DecidableEq, Repr

def CommandLine.runBy (program : String) (c : CommandLine) : CommandLine := ⟨program, c.argv⟩

def drivePath (path : String) : String := "Z:" ++ path

def Invocation.onDrive (v : Invocation) : Invocation :=
  { v with input := drivePath v.input, output := drivePath v.output }

def flags (s : String) : List String :=
  ((s.toList.splitOn ' ').filter fun word => !word.isEmpty).map String.ofList

structure Builder where
  compiler : CompilerSettings
  settings : CompilationSettings
  deriving DecidableEq, Repr

namespace Builder

/-- The options of the request, those of the descriptor, and those for the other dialect if it is asked for. -/
def options (b : Builder) (v : Invocation) : List String :=
  v.options.filter (fun o => !o.isEmpty) ++ flags b.compiler.options
    ++ (if v.filters.intel && !v.filters.binary then flags b.compiler.intelFlags else [])

def unixArgs (b : Builder) (v : Invocation) : List String :=
  let mode := if v.filters.binary then flags b.settings.linkFlags else flags b.compiler.asmFlag
  (["-g", b.compiler.outputFlag, v.output] ++ mode ++ b.options v ++ [v.input]).filter fun a => !a.isEmpty

def msvcArgs (b : Builder) (v : Invocation) : List String :=
  b.options v ++ ["/FAsc", "/c", "/Fa" ++ v.output, "/Fo" ++ v.output ++ ".obj", v.input]

def bare (b : Builder) (v : Invocation) : CommandLine :=
  ⟨b.compiler.exe.getD "", if b.compiler.isMsvc then b.msvcArgs v else b.unixArgs v⟩

def emulated (b : Builder) (v : Invocation) : CommandLine :=
  if b.compiler.needsWine then (b.bare v.onDrive).runBy b.settings.wine else b.bare v

def build (b : Builder) (v : Invocation) : CommandLine :=
  if b.settings.wrapper.isEmpty then b.emulated v else (b.emulated v).runBy b.settings.wrapper

/-- The name of the family with everything it runs under, outermost first. -/
def family (b : Builder) : String :=
  (if b.settings.wrapper.isEmpty then "" else "wrapped+") ++ (if b.compiler.needsWine then "wine+" else "")
    ++ (if b.compiler.isMsvc then "msvc" else "unix")

end Builder
end AsmScope
