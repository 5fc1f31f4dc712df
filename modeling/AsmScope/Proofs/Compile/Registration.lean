import AsmScope.Compile.Registry
import Mathlib.Data.List.Induction

/-! What is registered for a descriptor. Three tests look at its program and its address: the one it has to pass,
the one that makes it remote, and the one that fills in a missing program. They agree on all descriptors but those
with an empty program and an address, which are registered as local and can never be run. -/

namespace AsmScope

namespace CompilerSettings

theorem isNamed_iff (text : Option String) : isNamed text = true ↔ ∃ s, text = some s ∧ s ≠ "" := by
  cases text with
  | none => simp [isNamed]
  | some s => simp [isNamed]

theorem check_eq_valid_iff (c : CompilerSettings) :
    c.check = .valid c ↔ isNamed c.exe = true ∨ isNamed c.remote = true := by
  rw [check, ← Bool.or_eq_true]
  split
  · rename_i named
    exact ⟨fun _ => named, fun _ => rfl⟩
  · rename_i unnamed
    exact ⟨nofun, fun named => absurd named unnamed⟩

theorem isRemote_iff (c : CompilerSettings) :
    c.isRemote = true ↔ c.exe = none ∧ ∃ address, c.remote = some address ∧ address ≠ "" := by
  rw [isRemote, Bool.and_eq_true, Option.isNone_iff_eq_none, isNamed_iff]

end CompilerSettings

namespace Registry

theorem find?_add (s : CompilationSettings) (r : Registry) (c : CompilerSettings) (id : String) :
    (r.add s c).find? id = (r.find? id).or (if c.id = id then some (entryOf s c) else none) := by
  unfold add
  cases taken : r.find? c.id with
  | some e =>
    simp only
    split
    · rename_i same
      rw [← same, taken]
      rfl
    · rw [Option.or_none]
  | none =>
    simp only [find?, List.find?_append, List.find?_singleton, entryOf]
    by_cases same : c.id = id <;> simp [same]

theorem find?_foldl_add (s : CompilationSettings) (compilers : List CompilerSettings) (r : Registry) (id : String) :
    (compilers.foldl (add s) r).find? id =
      (r.find? id).or ((compilers.find? fun c => c.id = id).map (entryOf s)) := by
  induction compilers generalizing r with
  | nil => simp
  | cons c compilers ih =>
    rw [List.foldl_cons, ih, find?_add, Option.or_assoc, List.find?_cons]
    by_cases same : c.id = id <;> simp [same]

theorem find?_ofSettings (compilers : List CompilerSettings) (s : CompilationSettings) (id : String) :
    (ofSettings compilers s).find? id = (compilers.find? fun c => c.id = id).map (entryOf s) :=
  find?_foldl_add s compilers ⟨[]⟩ id

def HoldsFirst (r : Registry) : Prop := ∀ e ∈ r.entries, r.find? e.settings.id = some e

theorem HoldsFirst.add {s : CompilationSettings} {r : Registry} (h : r.HoldsFirst) (c : CompilerSettings) :
    (r.add s c).HoldsFirst := by
  intro e there
  rw [find?_add]
  unfold Registry.add at there
  split at there
  · rw [h e there]
    rfl
  · rename_i untaken
    rcases List.mem_append.mp there with old | new
    · rw [h e old]
      rfl
    · obtain rfl := List.mem_singleton.mp new
      have named : (entryOf s c).settings.id = c.id := rfl
      rw [named, untaken, if_pos rfl]
      rfl

theorem holdsFirst_ofSettings (compilers : List CompilerSettings) (s : CompilationSettings) :
    (ofSettings compilers s).HoldsFirst := by
  unfold ofSettings
  induction compilers using List.reverseRecOn with
  | nil => exact fun e there => by cases there
  | append_singleton compilers c ih =>
    rw [List.foldl_append]
    exact ih.add c

end Registry

namespace Builder

def runners (b : Builder) : List String :=
  (if b.settings.wrapper.isEmpty then [] else [b.settings.wrapper])
    ++ (if b.compiler.needsWine then [b.settings.wine] else [])

/-- What is asked of the compiler itself, with its files where it sees them. -/
def seen (b : Builder) (v : Invocation) : Invocation := if b.compiler.needsWine then v.onDrive else v

/-- Whatever runs a compiler stands before it, and the compiler's own command follows. -/
theorem argv_build (b : Builder) (v : Invocation) : (b.build v).argv = b.runners ++ (b.bare (b.seen v)).argv := by
  unfold build emulated runners seen
  by_cases unwrapped : b.settings.wrapper.isEmpty = true <;> by_cases wine : b.compiler.needsWine = true <;>
    simp [unwrapped, wine, CommandLine.argv, CommandLine.runBy]

end Builder

namespace Entry

/-- It is asked for at another address, and nothing is run for it here. -/
structure IsElsewhere (e : Entry) : Prop where
  remote : e.settings.isRemote = true
  address : ∃ address, e.settings.remote = some address ∧ address ≠ ""
  unbuilt : e.builder = none

/-- Each of its commands runs the program, by itself or by what it is configured to run under. -/
def Runs (e : Entry) (program : String) : Prop :=
  ∃ b, e.builder = some b ∧ ∀ v, ∃ args, (b.build v).argv = b.runners ++ program :: args

/-- It has a program, and each of its commands runs it. -/
def IsRunnable (e : Entry) : Prop := ∃ program, e.settings.exe = some program ∧ program ≠ "" ∧ e.Runs program

theorem runs_entryOf {s : CompilationSettings} {c : CompilerSettings} {program : String}
    (exe : c.exe = some program) : (Registry.entryOf s c).Runs program := by
  have here : c.isRemote = false := by simp [CompilerSettings.isRemote, exe]
  refine ⟨⟨c, s⟩, by simp [Registry.entryOf, here], fun v => ⟨(Builder.bare ⟨c, s⟩ (Builder.seen ⟨c, s⟩ v)).args, ?_⟩⟩
  rw [Builder.argv_build, CommandLine.argv]
  simp [Builder.bare, exe]

end Entry

open Registry in
/-- A descriptor that may be registered is registered, if it is the first of its name. It is then remote, or run by
its program in every command, just if its program is not empty. With an empty program it is taken for one that is
run here, and its commands name no program. -/
theorem runnable_or_remote_iff (s : CompilationSettings) (compilers : List CompilerSettings) (c : CompilerSettings)
    (valid : c.check = .valid c) (first : (compilers.find? fun d => d.id = c.id) = some c) :
    ∃ e, (ofSettings compilers s).find? c.id = some e ∧ e.settings = c ∧
      (e.IsElsewhere ∨ e.IsRunnable ↔ c.exe ≠ some "") ∧
      (c.exe = some "" → c.isRemote = false ∧ e.Runs "") := by
  refine ⟨entryOf s c, by rw [find?_ofSettings, first]; rfl, rfl, ⟨?_, fun named => ?_⟩, fun empty => ?_⟩
  · rintro (⟨remote, -, -⟩ | ⟨program, exe, named, -⟩) empty
    · rw [((CompilerSettings.isRemote_iff c).mp remote).1] at empty
      cases empty
    · exact named (Option.some.inj (exe.symm.trans empty))
  · cases exe : c.exe with
    | some program =>
      exact .inr ⟨program, exe, fun empty => named (exe.trans (congrArg some empty)), Entry.runs_entryOf exe⟩
    | none =>
      have address : ∃ address, c.remote = some address ∧ address ≠ "" := by
        rw [CompilerSettings.check_eq_valid_iff, exe] at valid
        exact (CompilerSettings.isNamed_iff _).mp (valid.resolve_left Bool.false_ne_true)
      have remote : c.isRemote = true := (CompilerSettings.isRemote_iff c).mpr ⟨exe, address⟩
      exact .inl ⟨remote, address, by simp [entryOf, remote]⟩
  · exact ⟨by simp [CompilerSettings.isRemote, empty], Entry.runs_entryOf empty⟩

def wrappedCompiler : CompilerSettings := { id := "cl", exe := some "C:/cl.exe", needsWine := true, isMsvc := true }

theorem runnable_or_remote_iff_wrapped :
    wrappedCompiler.check = .valid wrappedCompiler ∧
    ∃ e, (Registry.ofSettings [wrappedCompiler, { wrappedCompiler with exe := some "cl" }]
      { wrapper := "nice" }).find? "cl" = some e ∧ e.IsRunnable := by
  have valid : wrappedCompiler.check = .valid wrappedCompiler :=
    (CompilerSettings.check_eq_valid_iff _).mpr (.inl (by decide))
  obtain ⟨e, found, settings, useful, -⟩ := runnable_or_remote_iff { wrapper := "nice" }
    [wrappedCompiler, { wrappedCompiler with exe := some "cl" }] wrappedCompiler valid (by decide)
  refine ⟨valid, e, found, (useful.mpr (by decide)).resolve_left fun elsewhere => ?_⟩
  have remote := elsewhere.remote
  rw [settings] at remote
  cases remote

def emptyProgram : CompilerSettings := { id := "cc", exe := some "", remote := some "http://far" }

/-- It may be registered, and it is neither remote nor can it be run. -/
theorem empty_program_unusable :
    emptyProgram.check = .valid emptyProgram ∧
    ∃ e, (Registry.ofSettings [emptyProgram] {}).find? "cc" = some e ∧ ¬ (e.IsElsewhere ∨ e.IsRunnable) := by
  refine ⟨(CompilerSettings.check_eq_valid_iff _).mpr (.inr (by decide)), _, rfl, ?_⟩
  rintro (⟨remote, -, -⟩ | ⟨program, exe, named, -⟩)
  · cases remote
  · exact named (Option.some.inj exe).symm

end AsmScope
