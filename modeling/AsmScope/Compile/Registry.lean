import AsmScope.Compile.Command
import AsmScope.Compile.Failure

/-! The configured compilers by their names. The first of two descriptors with one name is kept. A remote
compiler has no builder, for nothing is ever run for it here. -/

namespace AsmScope

structure Entry where
  settings : CompilerSettings
  builder : Option Builder
  deriving DecidableEq, Repr

structure Registry where
  entries : List Entry
  deriving Repr

namespace Registry

def entryOf (s : CompilationSettings) (c : CompilerSettings) : Entry :=
  ⟨c, if c.isRemote then none else some ⟨c, s⟩⟩

def find? (r : Registry) (id : String) : Option Entry := r.entries.find? fun e => e.settings.id = id

/-- A descriptor is added at the end, unless its name is taken. -/
def add (s : CompilationSettings) (r : Registry) (c : CompilerSettings) : Registry :=
  match r.find? c.id with
  | some _ => r
  | none => ⟨r.entries ++ [entryOf s c]⟩

def ofSettings (compilers : List CompilerSettings) (s : CompilationSettings) : Registry :=
  compilers.foldl (add s) ⟨[]⟩

def lookup (r : Registry) (id : String) : Except Failure Entry :=
  match r.find? id with
  | some e => .ok e
  | none => .error (.unknownCompiler id)

structure Summary where
  id : String
  name : String
  supportsBinary : Bool
  supportsIntel : Bool
  isRemote : Bool
  deriving DecidableEq, Repr

def Summary.fields (s : Summary) : Fields :=
  [("id", .string s.id), ("name", .string s.name), ("supportsBinary", .bool s.supportsBinary),
    ("supportsIntel", .bool s.supportsIntel), ("remote", .bool s.isRemote)]

def summary (e : Entry) : Summary :=
  ⟨e.settings.id, e.settings.displayName, e.settings.supportsBinary, !e.settings.intelFlags.isEmpty,
    e.settings.isRemote⟩

def summaries (r : Registry) : List Summary := r.entries.map summary

end Registry
end AsmScope
