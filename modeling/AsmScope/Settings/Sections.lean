import AsmScope.Listing.Filters
import AsmScope.Settings.Compiler

/-! The sections of a configuration and the configuration as a whole. Every field has a fallback, so an empty
document is a configuration. -/

namespace AsmScope
open Settings

structure LimitSettings where
  jobs : Nat := 2
  compileTimeoutMs : Nat := 10000
  maxOutputBytes : Nat := 5000
  maxAsmBytes : Nat := 8388608
  maxAsmLines : Nat := 500000
  cacheBytes : Nat := 67108864
  remoteTimeoutSecs : Double := Double.ofInt 30
  deriving DecidableEq, Repr

def LimitSettings.ofFields (f : Fields) : Validated LimitSettings :=
  let d : LimitSettings := {}
  LimitSettings.mk <$> fieldOr f "max_concurrent_jobs" (atLeast 1) d.jobs
    <*> fieldOr f "compile_timeout_ms" (above 0) d.compileTimeoutMs
    <*> fieldOr f "max_output_bytes" (above 0) d.maxOutputBytes
    <*> fieldOr f "max_asm_bytes" (above 0) d.maxAsmBytes
    <*> fieldOr f "max_asm_lines" (above 0) d.maxAsmLines
    <*> fieldOr f "cache_capacity_bytes" (atLeast 0) d.cacheBytes
    <*> fieldOr f "remote_timeout_secs" double d.remoteTimeoutSecs

def LimitSettings.ofValue : Value → Validated LimitSettings := record "LimitSettings" ofFields

def LimitSettings.toValue (l : LimitSettings) : Value :=
  .table [("max_concurrent_jobs", .ofNat l.jobs), ("compile_timeout_ms", .ofNat l.compileTimeoutMs),
    ("max_output_bytes", .ofNat l.maxOutputBytes), ("max_asm_bytes", .ofNat l.maxAsmBytes),
    ("max_asm_lines", .ofNat l.maxAsmLines), ("cache_capacity_bytes", .ofNat l.cacheBytes),
    ("remote_timeout_secs", .double l.remoteTimeoutSecs)]

def forbiddenOptions : String :=
  "^(-W[alp],)?((-wrapper|-fplugin.*|-specs|-load|-plugin|@.*|-I|-i|-isystem|-o|-B)(=.*)?"
    ++ "|--|-I/.*|-isystem/.*|-o.+|-B.+)$"

def hiddenFunctions : String :=
  "^(__.*|_(init|start|fini)|(de)?register_tm_clones|call_gmon_start|frame_dummy|\\.plt.*"
    ++ "|_dl_relocate_static_pie)$"

structure CompilationSettings where
  fileName : String := "example.cpp"
  stubPattern : String := "\\bmain\\b"
  stubText : String := "int main(void) \x7b return 0; /* stub provided by cexplorer */ \x7d"
  linkFlags : String := ""
  wrapper : String := ""
  wine : String := "/usr/bin/wine"
  objdump : String := "objdump"
  multiarch : Option String := none
  allowedOptions : String := ".*"
  forbiddenOptions : String := AsmScope.forbiddenOptions
  hiddenFunctions : String := AsmScope.hiddenFunctions
  deriving DecidableEq, Repr

def CompilationSettings.ofFields (f : Fields) : Validated CompilationSettings :=
  let d : CompilationSettings := {}
  CompilationSettings.mk <$> fieldOr f "compile_filename" string d.fileName
    <*> fieldOr f "stub_re" string d.stubPattern
    <*> fieldOr f "stub_text" string d.stubText
    <*> fieldOr f "compile_to_binary" string d.linkFlags
    <*> fieldOr f "compiler_wrapper" string d.wrapper
    <*> fieldOr f "wine" string d.wine
    <*> fieldOr f "objdump" string d.objdump
    <*> fieldOr f "multiarch" (optional string) d.multiarch
    <*> fieldOr f "options_allowed_re" string d.allowedOptions
    <*> fieldOr f "options_forbidden_re" string d.forbiddenOptions
    <*> fieldOr f "binary_hide_func_re" string d.hiddenFunctions

def CompilationSettings.ofValue : Value → Validated CompilationSettings :=
  record "CompilationSettings" ofFields

def CompilationSettings.toValue (c : CompilationSettings) : Value :=
  .table [("compile_filename", .string c.fileName), ("stub_re", .string c.stubPattern),
    ("stub_text", .string c.stubText), ("compile_to_binary", .string c.linkFlags),
    ("compiler_wrapper", .string c.wrapper), ("wine", .string c.wine), ("objdump", .string c.objdump),
    ("multiarch", .ofString? c.multiarch), ("options_allowed_re", .string c.allowedOptions),
    ("options_forbidden_re", .string c.forbiddenOptions), ("binary_hide_func_re", .string c.hiddenFunctions)]

structure WorkspaceSettings where
  root : Option String := none
  namePrefix : String := "cexplorer-"
  cleanupSecs : Nat := 600
  deriving DecidableEq, Repr

def WorkspaceSettings.ofFields (f : Fields) : Validated WorkspaceSettings :=
  let d : WorkspaceSettings := {}
  WorkspaceSettings.mk <$> fieldOr f "root" (optional path) d.root
    <*> fieldOr f "prefix" string d.namePrefix
    <*> fieldOr f "cleanup_interval_secs" (above 0) d.cleanupSecs

def WorkspaceSettings.ofValue : Value → Validated WorkspaceSettings := record "WorkspaceSettings" ofFields

def WorkspaceSettings.toValue (w : WorkspaceSettings) : Value :=
  .table [("root", .ofString? w.root), ("prefix", .string w.namePrefix),
    ("cleanup_interval_secs", .ofNat w.cleanupSecs)]

structure OutputSettings where
  verbosity : String := "normal"
  deriving DecidableEq, Repr

def OutputSettings.ofFields (f : Fields) : Validated OutputSettings :=
  OutputSettings.mk <$> fieldOr f "verbosity" string "normal"

def OutputSettings.ofValue : Value → Validated OutputSettings := record "OutputSettings" ofFields

def OutputSettings.toValue (o : OutputSettings) : Value := .table [("verbosity", .string o.verbosity)]

structure AppConfig where
  limits : LimitSettings := {}
  compilation : CompilationSettings := {}
  workspace : WorkspaceSettings := {}
  output : OutputSettings := {}
  compilers : List CompilerSettings := []
  raw : Fields := []
  deriving Repr

def AppConfig.table : Value → Validated Fields
  | .table fields => .valid fields
  | _ => .fault .notTable

def AppConfig.ofFields (f : Fields) : Validated AppConfig :=
  AppConfig.mk <$> fieldOr f "limits" LimitSettings.ofValue {}
    <*> fieldOr f "compilation" CompilationSettings.ofValue {}
    <*> fieldOr f "workspace" WorkspaceSettings.ofValue {}
    <*> fieldOr f "output" OutputSettings.ofValue {}
    <*> fieldOr f "compilers" (list CompilerSettings.ofValue) []
    <*> fieldOr f "raw" AppConfig.table []

def AppConfig.ofValue : Value → Validated AppConfig := record "AppConfig" ofFields

def AppConfig.toValue (c : AppConfig) : Value :=
  .table [("limits", c.limits.toValue), ("compilation", c.compilation.toValue),
    ("workspace", c.workspace.toValue), ("output", c.output.toValue),
    ("compilers", .list (c.compilers.map CompilerSettings.toValue)), ("raw", .table c.raw)]

def AppConfig.compiler? (c : AppConfig) (id : String) : Option CompilerSettings :=
  c.compilers.find? fun compiler => compiler.id = id

/-- The key under which the comment switch is given: the name of the wire is taken before the other one. -/
def Filters.commentKey (f : Fields) : String :=
  if (Fields.get? f "commentOnly").isSome then "commentOnly" else "comment_only"

def Filters.ofFields (f : Fields) : Validated Filters :=
  Filters.mk <$> fieldOr f "directives" bool false
    <*> fieldOr f "labels" bool false
    <*> fieldOr f (Filters.commentKey f) bool false
    <*> fieldOr f "binary" bool false
    <*> fieldOr f "intel" bool false
    <*> fieldOr f "trim" bool false

def Filters.ofValue : Value → Validated Filters := record "FilterSet" ofFields

end AsmScope
