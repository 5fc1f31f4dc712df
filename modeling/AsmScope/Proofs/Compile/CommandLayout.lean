import AsmScope.Proofs.Compile.Registration
import AsmScope.Proofs.Path
import Mathlib.Data.List.Infix

/-! The layout of a command line. What the request and the descriptor ask for stands in one block, and what stands
before and after it does not depend on the options of the request; so no option takes the place of a fixed argument.
What runs the compiler stands in front of all of it. -/

namespace AsmScope

/-- The words of a text are its parts between blanks, but for the empty ones. -/
inductive Parted : List Char → List (List Char) → Prop where
  | nil : Parted [] []
  | blank {s : List Char} {words : List (List Char)} (rest : Parted s words) : Parted (' ' :: s) words
  | last {word : List Char} (filled : word ≠ []) (unparted : ' ' ∉ word) : Parted word [word]
  | word {word s : List Char} {words : List (List Char)} (filled : word ≠ []) (unparted : ' ' ∉ word)
      (rest : Parted s words) : Parted (word ++ ' ' :: s) (word :: words)

theorem Parted.splitOn {s : List Char} {words : List (List Char)} (h : Parted s words) :
    ((s.splitOn ' ').filter fun word => !word.isEmpty) = words := by
  induction h with
  | nil => rfl
  | blank _ ih => simpa [List.splitOn_cons_eq_if_modifyHead] using ih
  | last filled unparted =>
    rw [List.splitOn_eq_singleton unparted, List.filter_cons_of_pos (by simpa using filled)]
    rfl
  | @word word s words filled unparted _ ih =>
    have parts : (word ++ ' ' :: s).splitOn ' ' = word.splitOn ' ' ++ s.splitOn ' ' :=
      List.splitOnP_append_cons word s (by decide)
    rw [parts, List.splitOn_eq_singleton unparted, List.singleton_append, List.filter_cons_of_pos (by simpa using filled), ih]

theorem parted_intercalate {parts : List (List Char)} (filled : parts ≠ []) (unparted : ∀ part ∈ parts, ' ' ∉ part) :
    Parted ([' '].intercalate parts) (parts.filter fun part => !part.isEmpty) := by
  induction parts with
  | nil => exact absurd rfl filled
  | cons part parts ih =>
    obtain ⟨here, others⟩ := List.forall_mem_cons.mp unparted
    cases parts with
    | nil =>
      rw [List.intercalate_singleton]
      cases part with
      | nil => exact .nil
      | cons c part => exact .last (List.cons_ne_nil _ _) here
    | cons next parts =>
      have rest := ih (List.cons_ne_nil _ _) others
      rw [List.intercalate_cons_cons, List.append_assoc]
      cases part with
      -- An empty part is where two blanks meet, or where a blank comes first.
      | nil => exact .blank rest
      | cons c part => exact .word (List.cons_ne_nil _ _) here rest

theorem flags_eq_iff {s : String} {words : List String} :
    flags s = words ↔ Parted s.toList (words.map String.toList) := by
  have pieces : Parted s.toList ((s.toList.splitOn ' ').filter fun word => !word.isEmpty) := by
    have read := parted_intercalate (List.splitOn_ne_nil ' ' s.toList) fun _ => Text.not_mem_of_mem_splitOn
    rwa [List.intercalate_splitOn] at read
  constructor
  · rintro rfl
    simpa [flags, Function.comp_def] using pieces
  · intro parted
    rw [flags, parted.splitOn]
    simp [Function.comp_def]

namespace Builder

def pathSeen (b : Builder) (path : String) : String := if b.compiler.needsWine then drivePath path else path

theorem seen_eq (b : Builder) (v : Invocation) :
    b.seen v = { v with input := b.pathSeen v.input, output := b.pathSeen v.output } := by
  unfold seen pathSeen
  split <;> rfl

theorem pathSeen_ne_empty (b : Builder) {path : String} (filled : path ≠ "") : b.pathSeen path ≠ "" := by
  unfold pathSeen
  split
  · simp [drivePath]
  · exact filled

def opening (b : Builder) (f : Filters) (output : String) : List String :=
  if b.compiler.isMsvc then []
  else (["-g", b.compiler.outputFlag, output] ++
    (if f.binary then flags b.settings.linkFlags else flags b.compiler.asmFlag)).filter fun a => !a.isEmpty

def closing (b : Builder) (input output : String) : List String :=
  if b.compiler.isMsvc then ["/FAsc", "/c", "/Fa" ++ output, "/Fo" ++ output ++ ".obj", input] else [input]

theorem ne_empty_of_mem_flags {s word : String} (there : word ∈ flags s) : word ≠ "" := by
  obtain ⟨part, kept, rfl⟩ := List.mem_map.mp there
  have filled : part ≠ [] := by simpa using (List.mem_filter.mp kept).2
  simpa using filled

theorem ne_empty_of_mem_options {b : Builder} {v : Invocation} {option : String} (there : option ∈ b.options v) :
    option ≠ "" := by
  simp only [options, List.mem_append, List.mem_filter] at there
  rcases there with (⟨-, filled⟩ | own) | dialect
  · simpa using filled
  · exact ne_empty_of_mem_flags own
  · split at dialect
    · exact ne_empty_of_mem_flags dialect
    · cases dialect

/-- The options of the request are in the middle, and empty arguments are left out around them only. -/
theorem argv_bare (b : Builder) {v : Invocation} (input : v.input ≠ "") :
    (b.bare v).argv = b.compiler.exe.getD "" :: b.opening v.filters v.output ++ b.options v ++
      b.closing v.input v.output := by
  unfold bare opening closing
  cases b.compiler.isMsvc with
  | true => simp [CommandLine.argv, msvcArgs]
  | false =>
    -- The empty arguments are left out of the whole line; the options have lost theirs before.
    have middle : (b.options v).filter (fun a => !a.isEmpty) = b.options v :=
      List.filter_eq_self.mpr fun option there => by simpa using ne_empty_of_mem_options there
    have last : [v.input].filter (fun a => !a.isEmpty) = [v.input] :=
      List.filter_eq_self.mpr (by simpa using input)
    simp only [CommandLine.argv, unixArgs, Bool.false_eq_true, if_false]
    rw [List.filter_append, List.filter_append, middle, last]
    rfl

theorem outputFlag_infix_opening {b : Builder} {output : String} (unix : b.compiler.isMsvc = false)
    (flag : b.compiler.outputFlag ≠ "") (filled : output ≠ "") (f : Filters) :
    [b.compiler.outputFlag, output] <:+: b.opening f output := by
  have filled : ["-g", b.compiler.outputFlag, output].filter (fun a => !a.isEmpty) =
      ["-g", b.compiler.outputFlag, output] :=
    List.filter_eq_self.mpr (by simpa using ⟨flag, filled⟩)
  rw [opening, unix, if_neg Bool.false_ne_true, List.filter_append, filled]
  exact ⟨["-g"], _, rfl⟩

/-- The words of the descriptor for the other dialect, where it is asked for and can be. -/
theorem options_eq (b : Builder) (v : Invocation) :
    b.options v = v.options.filter (fun o => !o.isEmpty) ++ flags b.compiler.options ++
      if b.compiler.intelFlags ≠ "" ∧ v.filters.intel = true ∧ v.filters.binary = false
        then flags b.compiler.intelFlags else [] := by
  unfold options
  congr 1
  by_cases dialect : b.compiler.intelFlags = ""
  · have none : flags "" = [] := rfl
    simp [dialect, none]
  · simp [dialect]

theorem getLast?_closing (b : Builder) (input output : String) : (b.closing input output).getLast? = some input := by
  unfold closing
  split <;> rfl

theorem argv_build_of_input (b : Builder) {v : Invocation} (input : v.input ≠ "") :
    (b.build v).argv =
      (b.runners ++ b.compiler.exe.getD "" :: b.opening v.filters (b.pathSeen v.output)) ++ b.options v ++
        b.closing (b.pathSeen v.input) (b.pathSeen v.output) := by
  rw [argv_build, seen_eq, argv_bare b (pathSeen_ne_empty b input), List.append_assoc, List.append_assoc,
    List.append_assoc]
  rfl

def withWine (b : Builder) (wine : Bool) : Builder :=
  { b with compiler := { b.compiler with needsWine := wine } }

def withWrapper (b : Builder) (program : String) : Builder :=
  { b with settings := { b.settings with wrapper := program } }

theorem runners_withWrapper (b : Builder) {program : String} (named : program ≠ "") :
    (b.withWrapper program).runners = program :: (b.withWrapper "").runners := by
  have given : program.isEmpty = false := by simpa using named
  simp only [runners, withWrapper, given]
  rfl

/-- The texts of paths are never empty. With such texts a command has one block of options: all that the request gives,
what the descriptor adds, and what it adds for the other dialect where that is asked for. What surrounds the block is
the same for all options. The command ends with the input, and a compiler with a flag for the output finds the output
after it and before the block. The emulator runs the same command with its files on the drive, and the wrapper runs
whatever is run without it. -/
theorem argv_well_formed (b : Builder) (v : Invocation) (input : v.input ≠ "") (output : v.output ≠ "") :
    (∃ front own dialect back,
      Parted b.compiler.options.toList (own.map String.toList) ∧
      Parted b.compiler.intelFlags.toList (dialect.map String.toList) ∧
      (∀ options, (b.build { v with options := options }).argv =
        front ++ (options.filter (fun o => !o.isEmpty) ++ own ++
          if b.compiler.intelFlags ≠ "" ∧ v.filters.intel = true ∧ v.filters.binary = false then dialect else [])
          ++ back) ∧
      (b.compiler.isMsvc = false → b.compiler.outputFlag ≠ "" →
        [b.compiler.outputFlag, b.pathSeen v.output] <:+: front)) ∧
    (b.build v).argv.getLast? = some (b.pathSeen v.input) ∧
    (((b.withWrapper "").withWine true).build v).argv =
      b.settings.wine :: (((b.withWrapper "").withWine false).build v.onDrive).argv ∧
    ∀ program, program ≠ "" →
      ((b.withWrapper program).build v).argv = program :: ((b.withWrapper "").build v).argv ∧
      (((b.withWrapper program).withWine true).build v).argv =
        program :: b.settings.wine :: (((b.withWrapper "").withWine false).build v.onDrive).argv := by
  refine ⟨⟨b.runners ++ b.compiler.exe.getD "" :: b.opening v.filters (b.pathSeen v.output),
    flags b.compiler.options, flags b.compiler.intelFlags, b.closing (b.pathSeen v.input) (b.pathSeen v.output),
    flags_eq_iff.mp rfl, flags_eq_iff.mp rfl, fun options => ?_, fun unix flag => ?_⟩, ?_, ?_, fun program named => ⟨?_, ?_⟩⟩
  · have command := argv_build_of_input b (v := { v with options := options }) input
    rwa [options_eq] at command
  · have there := outputFlag_infix_opening unix flag (pathSeen_ne_empty b output) v.filters
    exact there.trans ((List.suffix_cons ..).trans (List.suffix_append ..)).isInfix
  · rw [argv_build_of_input b input, List.getLast?_append, getLast?_closing]
    rfl
  · rw [argv_build, argv_build]
    rfl
  · rw [argv_build, argv_build, runners_withWrapper b named]
    rfl
  · -- The wrapper is outside, so the emulator is part of what it runs.
    have both : (b.withWrapper program).withWine true = (b.withWine true).withWrapper program := rfl
    rw [both, argv_build, argv_build, runners_withWrapper _ named]
    rfl

/-- A compiler for another system, behind a wrapper, with flags that stand apart by more than one blank. -/
def wrappedEmulated : Builder :=
  ⟨{ id := "g", exe := some "g++.exe", needsWine := true, intelFlags := " -masm=intel", options := "-w  -x c" },
    { wrapper := "nice" }⟩

/-- An invocation whose options look like the flag for the output. -/
def misleading : Invocation :=
  ⟨["-o", "", "a b"], { intel := true }, Path.normal "ws//in.c", Path.normal "ws/./out.s"⟩

theorem argv_well_formed_misleading :
    misleading.input ≠ "" ∧ misleading.output ≠ "" ∧
    (∃ front back, (wrappedEmulated.build misleading).argv =
        front ++ ["-o", "a b", "-w", "-x", "c", "-masm=intel"] ++ back ∧
      ["-o", drivePath misleading.output] <:+: front) ∧
    (wrappedEmulated.build misleading).argv.getLast? = some (drivePath misleading.input) := by
  have input : misleading.input ≠ "" := Path.normal_ne_empty "ws//in.c"
  have output : misleading.output ≠ "" := Path.normal_ne_empty "ws/./out.s"
  obtain ⟨⟨front, own, dialect, back, descriptor, other, block, named⟩, last, -⟩ :=
    argv_well_formed wrappedEmulated misleading input output
  obtain rfl := flags_eq_iff.mpr descriptor
  obtain rfl := flags_eq_iff.mpr other
  exact ⟨input, output, ⟨front, back, block misleading.options, named rfl (by decide)⟩, last⟩

end Builder
end AsmScope
