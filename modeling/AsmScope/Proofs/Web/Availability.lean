import AsmScope.Proofs.Web.Site

/-! What the site says of the availability of compilers. The flag is looked up by name among all that was looked for on
the machine, and there a name may stand more than once: for another descriptor of the same name, which is not
registered, or for one of the tools. -/

namespace AsmScope

namespace EnvironmentReport

def Finds (commands : List HostCommand) (command : String) : Prop := (place? commands command).isSome = true

instance (commands : List HostCommand) (command : String) : Decidable (Finds commands command) :=
  inferInstanceAs (Decidable (_ = true))

inductive LooksFor (config : AppConfig) : String → String → Prop where
  | compiler {c : CompilerSettings} (listed : c ∈ localCompilers config) : LooksFor config c.id (c.exe.getD "")
  | objdump : LooksFor config "objdump" config.compilation.objdump
  | wine (needed : needsWine config = true) : LooksFor config "wine" config.compilation.wine
  | wrapper (given : config.compilation.wrapper ≠ "") :
      LooksFor config "compiler_wrapper" config.compilation.wrapper

theorem check_name (commands : List HostCommand) (name command : String) :
    (check commands name command).name = name := by
  unfold check
  split <;> rfl

theorem check_isAvailable_iff (commands : List HostCommand) (name command : String) :
    (check commands name command).isAvailable = true ↔ Finds commands command := by
  unfold check Finds
  split
  · rename_i absent
    simp [absent, ToolCheck.isAvailable]
  · rename_i present
    simp [present, ToolCheck.isAvailable]

theorem mem_tools_survey_iff (commands : List HostCommand) (config : AppConfig) (t : ToolCheck) :
    t ∈ (survey commands config).tools ↔
      ∃ name command, LooksFor config name command ∧ t = check commands name command := by
  simp only [survey, List.mem_append, List.mem_singleton]
  constructor
  · rintro (((own | objdump) | wine) | wrapper)
    · obtain ⟨c, listed, rfl⟩ := List.mem_map.mp own
      exact ⟨_, _, .compiler listed, rfl⟩
    · exact ⟨_, _, .objdump, objdump⟩
    · split at wine
      · rename_i needed
        exact ⟨_, _, .wine needed, List.mem_singleton.mp wine⟩
      · cases wine
    · split at wrapper
      · cases wrapper
      · rename_i given
        exact ⟨_, _, .wrapper (by simpa using given), List.mem_singleton.mp wrapper⟩
  · rintro ⟨name, command, looks, rfl⟩
    cases looks with
    | compiler listed => exact .inl (.inl (.inl (List.mem_map_of_mem listed)))
    | objdump => exact .inl (.inl (.inr rfl))
    | wine needed => exact .inl (.inr (by simp [needed]))
    | wrapper given => exact .inr (by simp [given])

theorem isAvailable_survey_iff (commands : List HostCommand) (config : AppConfig) (name : String) :
    (survey commands config).isAvailable name = true ↔
      ∃ command, LooksFor config name command ∧ Finds commands command := by
  simp only [isAvailable_iff, mem_tools_survey_iff]
  constructor
  · rintro ⟨_, ⟨_, command, looks, rfl⟩, rfl, found⟩
    rw [check_name]
    exact ⟨command, looks, (check_isAvailable_iff ..).mp found⟩
  · rintro ⟨command, looks, found⟩
    exact ⟨_, ⟨name, command, looks, rfl⟩, check_name .., (check_isAvailable_iff ..).mpr found⟩

end EnvironmentReport

open EnvironmentReport

namespace CompilerSettings

def IsInstalled (commands : List HostCommand) (c : CompilerSettings) : Prop := Finds commands (c.exe.getD "")

instance (commands : List HostCommand) (c : CompilerSettings) : Decidable (c.IsInstalled commands) :=
  inferInstanceAs (Decidable (Finds ..))

/-- Another command than its program is looked for under its name, and is there. -/
def IsCovered (commands : List HostCommand) (config : AppConfig) (c : CompilerSettings) : Prop :=
  ∃ command, LooksFor config c.id command ∧ command ≠ c.exe.getD "" ∧ Finds commands command

def toolNames : List String := ["objdump", "wine", "compiler_wrapper"]

theorem not_isCovered {commands : List HostCommand} {config : AppConfig} {c : CompilerSettings}
    (alone : ∀ d ∈ config.compilers, d.isRemote = false → d.id = c.id → d.exe = c.exe) (other : c.id ∉ toolNames) :
    ¬ c.IsCovered commands config := by
  rintro ⟨command, looks, differs, -⟩
  -- The name is taken apart from the descriptor, whose other fields have no part in the cases.
  generalize named : c.id = name at looks
  cases looks with
  | @compiler d listed =>
    obtain ⟨there, here⟩ := List.mem_filter.mp listed
    exact differs (by rw [alone d there (by simpa using here) named.symm])
  | objdump => exact other (by simp [named, toolNames])
  | wine => exact other (by simp [named, toolNames])
  | wrapper => exact other (by simp [named, toolNames])

theorem isRemote_or_isAvailable_iff {commands : List HostCommand} {config : AppConfig} {c : CompilerSettings}
    (listed : c ∈ config.compilers) :
    (c.isRemote || (survey commands config).isAvailable c.id) = true ↔
      c.isRemote = true ∨ c.IsInstalled commands ∨ c.IsCovered commands config := by
  cases remote : c.isRemote with
  | true => simp
  | false => ?_
  have own : LooksFor config c.id (c.exe.getD "") :=
    .compiler (List.mem_filter.mpr ⟨listed, by simp [remote]⟩)
  rw [Bool.false_or, isAvailable_survey_iff]
  simp only [Bool.false_eq_true, false_or]
  constructor
  · rintro ⟨command, looks, found⟩
    by_cases same : command = c.exe.getD ""
    · rw [same] at found
      exact .inl found
    · exact .inr ⟨command, looks, same, found⟩
  · rintro (found | ⟨command, looks, -, found⟩)
    · exact ⟨_, own, found⟩
    · exact ⟨command, looks, found⟩

end CompilerSettings

namespace Web.Site

section Reached
variable {config : AppConfig} {commands : List HostCommand} {s : Site} (reached : s.Reached config commands)
include reached

theorem Reached.mem_registry {e : Entry} (there : e ∈ s.registry.entries) :
    s.registry.find? e.settings.id = some e ∧ e.settings ∈ config.compilers := by
  obtain ⟨settings, registry⟩ := reached.exists_registry
  rw [registry] at there ⊢
  have found := Registry.holdsFirst_ofSettings _ _ e there
  refine ⟨found, ?_⟩
  rw [Registry.find?_ofSettings] at found
  obtain ⟨c, first, rfl⟩ := Option.map_eq_some_iff.mp found
  exact List.mem_of_find?_eq_some first

end Reached

def entryShown (report : EnvironmentReport) (e : Entry) : Value :=
  .table ((Registry.summary e).fields ++
    [("available", .bool (e.settings.isRemote || report.isAvailable e.settings.id))])

theorem compilers_eq (s : Site) : s.compilers = .list (s.registry.entries.map (entryShown s.environment)) := by
  rw [compilers, Registry.summaries, List.map_map]
  rfl

theorem entryShown_id (report : EnvironmentReport) (e : Entry) :
    (entryShown report e).field? "id" = some (.string e.settings.id) := rfl

theorem entryShown_available (report : EnvironmentReport) (e : Entry) :
    (entryShown report e).field? "available" =
      some (.bool (e.settings.isRemote || report.isAvailable e.settings.id)) := rfl

/-- At any time the list has an entry for each registered compiler and no other. The compiler is said to be available
just if it is remote, or its program is on the machine, or another command that is looked for under its name is. There
is no such command where all local descriptors of that name have one program and the name is not that of a tool. -/
theorem available_iff_installed_or_covered {config : AppConfig} {commands : List HostCommand} {s : Site}
    (reached : s.Reached config commands) {request : HttpRequest}
    (asks : Route.ofRequest request = .page .compilers) :
    ∃ items, (s.handle request).1 = answer (.list items) ∧
      (∀ e, s.registry.find? e.settings.id = some e → ∃ item ∈ items, item.field? "id" = some (.string e.settings.id)) ∧
      ∀ item ∈ items, ∃ e flag,
        item.field? "id" = some (.string e.settings.id) ∧ s.registry.find? e.settings.id = some e ∧
        item.field? "available" = some (.bool flag) ∧
        (flag = true ↔ e.settings.isRemote = true ∨ e.settings.IsInstalled commands ∨
          e.settings.IsCovered commands config) ∧
        ((∀ d ∈ config.compilers, d.isRemote = false → d.id = e.settings.id → d.exe = e.settings.exe) →
          e.settings.id ∉ CompilerSettings.toolNames → ¬ e.settings.IsCovered commands config) := by
  refine ⟨s.registry.entries.map (entryShown s.environment), ?_, fun e found => ?_, fun item there => ?_⟩
  · rw [handle_page asks, page, compilers_eq]
  · exact ⟨_, List.mem_map_of_mem (List.mem_of_find?_eq_some found), entryShown_id ..⟩
  · obtain ⟨e, registered, rfl⟩ := List.mem_map.mp there
    obtain ⟨found, listed⟩ := reached.mem_registry registered
    refine ⟨e, _, entryShown_id .., found, entryShown_available .., ?_, CompilerSettings.not_isCovered⟩
    rw [reached.environment]
    exact CompilerSettings.isRemote_or_isAvailable_iff listed

def getCompilers : HttpRequest := ⟨"GET", "/api/compilers", none, ""⟩

theorem asks_getCompilers : Route.ofRequest getCompilers = .page .compilers := by decide

def oneCommand : List HostCommand := [⟨"/bin/cc", some "/bin/cc", []⟩]

def missing : CompilerSettings := { id := "cc", exe := some "/no/cc" }

theorem available_iff_installed_or_covered_missing :
    (start { compilers := [missing] } oneCommand [] []).Reached { compilers := [missing] } oneCommand ∧
    Route.ofRequest getCompilers = .page .compilers ∧
    ∃ items, ((start { compilers := [missing] } oneCommand [] []).handle getCompilers).1 = answer (.list items) ∧
      ∃ item ∈ items, item.field? "id" = some (.string "cc") ∧ item.field? "available" = some (.bool false) := by
  have reached : (start { compilers := [missing] } oneCommand [] []).Reached { compilers := [missing] } oneCommand :=
    ⟨[], [], [], rfl⟩
  obtain ⟨items, reply, complete, shown⟩ := available_iff_installed_or_covered reached asks_getCompilers
  refine ⟨reached, asks_getCompilers, items, reply, ?_⟩
  obtain ⟨item, there, named⟩ := complete (Registry.entryOf {} missing) rfl
  obtain ⟨e, flag, -, found, available, means, uncovered⟩ := shown item there
  -- Only one descriptor is listed, so the entry of its name is its own.
  have only : e.settings = missing :=
    List.mem_singleton.mp (reached.mem_registry (List.mem_of_find?_eq_some found)).2
  rw [only] at means uncovered
  have absent : ¬ (missing.isRemote = true ∨ missing.IsInstalled oneCommand) := by
    rintro (remote | installed)
    · cases remote
    · exact absurd installed (by decide)
  cases flag with
  | false => exact ⟨item, there, named, available⟩
  | true =>
    rcases means.mp rfl with remote | installed | covered
    · exact absurd (.inl remote) absent
    · exact absurd (.inr installed) absent
    · exact absurd covered (uncovered (by simp) (by decide))

/-- The program of the first descriptor is not there, that of the second is. -/
def twiceNamed : AppConfig := { compilers := [missing, { missing with exe := some "/bin/cc" }] }

/-- The first descriptor is registered, and yet it is said to be available. -/
theorem second_descriptor_counts :
    (∀ c ∈ twiceNamed.compilers, c.check = .valid c) ∧
    (start twiceNamed oneCommand [] []).registry.find? "cc" = some (Registry.entryOf {} missing) ∧
    missing.isRemote = false ∧ ¬ missing.IsInstalled oneCommand ∧
    ((start twiceNamed oneCommand [] []).handle getCompilers).1 =
      answer (.list [.table [("id", .string "cc"), ("name", .string "cc"), ("supportsBinary", .bool true),
        ("supportsIntel", .bool false), ("remote", .bool false), ("available", .bool true)]]) := by
  refine ⟨?_, rfl, rfl, by decide, ?_⟩
  · simp only [twiceNamed, List.forall_mem_cons, CompilerSettings.check_eq_valid_iff]
    decide
  · rw [handle_page asks_getCompilers]
    rfl

end Web.Site
end AsmScope
