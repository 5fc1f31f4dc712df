import AsmScope.Proofs.Trace.Written
import Mathlib.Data.List.Basic

/-! Places that go through assembler text and come back. The writer numbers the files in the order of their first use
and leaves out a location that it has just given; the reader looks the numbers up and keeps the last location. Both
hold the same place at every record, as long as no operand ends a block. -/

namespace AsmScope.Trace
open AsmScope.Text AsmScope.Listing

def filesWith (files : List (List Char)) (r : Record) : List (List Char) :=
  if r.file ∈ files then files else files ++ [r.file]

def placeOf (files : List (List Char)) (r : Record) : Nat × List Char :=
  ((filesWith files r).idxOf r.file + 1, r.line)

def announced (files : List (List Char)) (previous : Option (Nat × List Char)) (r : Record) : List (List Char) :=
  (if r.file ∈ files then [] else [fileLine (files.length + 1) r.file])
    ++ if previous = some (placeOf files r) then [] else [locLine (placeOf files r).1 r.line]

theorem idxOf_new {files : List (List Char)} {file : List Char} (new : file ∉ files) :
    (files ++ [file]).idxOf file = files.length := by
  rw [List.idxOf_append_of_notMem new]
  simp

theorem placeOf_of_new {files : List (List Char)} {r : Record} (new : r.file ∉ files) :
    placeOf files r = (files.length + 1, r.line) := by
  rw [placeOf, filesWith, if_neg new, idxOf_new new]

theorem assembleFrom_cons (files : List (List Char)) (previous : Option (Nat × List Char)) (r : Record)
    (rest : List Record) :
    assembleFrom files previous (r :: rest) =
      announced files previous r ++ instruction r :: assembleFrom (filesWith files r) (some (placeOf files r)) rest := by
  by_cases known : r.file ∈ files
  · simp [assembleFrom, announced, filesWith, placeOf, known]
  · simp [assembleFrom, announced, filesWith, placeOf, known, idxOf_new known]

theorem getElem?_filesWith (files : List (List Char)) (r : Record) :
    (filesWith files r)[(filesWith files r).idxOf r.file]? = some r.file := by
  apply List.getElem?_idxOf
  unfold filesWith
  split
  · assumption
  · simp

theorem prefix_filesWith (files : List (List Char)) (r : Record) : files <+: filesWith files r := by
  unfold filesWith
  split
  · exact List.prefix_rfl
  · exact List.prefix_append _ _

theorem prefix_foldl_filesWith (files : List (List Char)) (records : List Record) :
    files <+: records.foldl filesWith files := by
  induction records generalizing files with
  | nil => exact List.prefix_rfl
  | cons r rest ih => exact (prefix_filesWith files r).trans (ih (filesWith files r))

structure Record.IsNamed (r : Record) : Prop where
  plain : '"' ∉ r.file
  notDash : r.file ≠ ['-']
  notStdin : occursIn stdinMark r.file = false

section Table

def Numbers (table : FileTable) (files : List (List Char)) : Prop :=
  ∀ n file, files[n]? = some file → table.lookup (n + 1) = some (String.ofList file)

variable {table : FileTable} {files : List (List Char)}

theorem Numbers.of_prefix {few : List (List Char)} (h : Numbers table files) (first : few <+: files) :
    Numbers table few := by
  intro n file found
  obtain ⟨tail, rfl⟩ := first
  refine h n file ?_
  rwa [List.getElem?_append_left (List.getElem?_eq_some_iff.mp found).1]

theorem Numbers.concat (h : Numbers table files) (file : List Char) :
    Numbers ((files.length + 1, String.ofList file) :: table) (files ++ [file]) := by
  intro n given found
  rcases Nat.lt_trichotomy n files.length with earlier | rfl | later
  · have other : (n + 1 == files.length + 1) = false := by simpa using earlier.ne
    rw [List.lookup_cons, other]
    exact h n given (by rwa [List.getElem?_append_left earlier] at found)
  · rw [List.getElem?_concat_length, Option.some.injEq] at found
    rw [List.lookup_cons_self, found]
  · rw [List.getElem?_eq_none (by simp; omega)] at found
    cases found

theorem filterMap_announced {r : Record} (sound : r.IsSound) (named : r.IsNamed) (previous : Option (Nat × List Char)) :
    (announced files previous r).filterMap fileEntry? =
      if r.file ∈ files then [] else [(files.length + 1, String.ofList r.file)] := by
  have place : (if previous = some (placeOf files r) then []
      else [locLine (placeOf files r).1 r.line]).filterMap fileEntry? = [] := by
    split
    · rfl
    · exact List.filterMap_cons_none (fileEntry?_locLine _ _)
  rw [announced, List.filterMap_append, place, List.append_nil]
  split
  · rfl
  · exact List.filterMap_cons_some (fileEntry?_fileLine _ sound.named named.plain)

theorem numbers_assembleFrom {records : List Record} (sound : ∀ r ∈ records, r.IsSound)
    (named : ∀ r ∈ records, r.IsNamed) (h : Numbers table files) (previous : Option (Nat × List Char)) :
    Numbers (((assembleFrom files previous records).filterMap fileEntry?).reverse ++ table)
      (records.foldl filesWith files) := by
  induction records generalizing files previous table with
  | nil => exact h
  | cons r rest ih =>
    have hr := sound r (List.mem_cons_self ..)
    obtain ⟨c, small, tail, begins⟩ := instruction_begins hr
    have later {table : FileTable} (h : Numbers table (filesWith files r)) :=
      ih (fun r hr => sound r (List.mem_cons_of_mem _ hr)) (fun r hr => named r (List.mem_cons_of_mem _ hr)) h
        (some (placeOf files r))
    rw [assembleFrom_cons, List.filterMap_append, filterMap_announced hr (named r (List.mem_cons_self ..)), begins,
      List.filterMap_cons_none (fileEntry?_letter small tail), List.foldl_cons]
    by_cases known : r.file ∈ files
    · rw [if_pos known, List.nil_append]
      exact later (by rwa [filesWith, if_pos known])
    · rw [if_neg known, List.reverse_append, List.append_assoc]
      refine later ?_
      rw [filesWith, if_neg known]
      exact h.concat r.file

end Table

/-- The place that the reader knows is the one written last, and its file has a number. -/
def Follows (t : Tables) (files : List (List Char)) (previous : Option (Nat × List Char)) (s : Standing) : Prop :=
  ∀ n line, previous = some (n, line) → n ≤ files.length ∧ s.source = some (t.locate n (decimalValue line))

section Walk
variable {t : Tables} {files : List (List Char)} {previous : Option (Nat × List Char)} {s : Standing} {r : Record}

/-- Before the instruction of a record the reader holds the record's place. A file line may have ended a block, but a
new file has a new number, so that a location line comes after it. -/
theorem source_announced (sound : r.IsSound) (follows : Follows t files previous s) :
    (s.after t (announced files previous r)).source =
      some (t.locate (placeOf files r).1 (decimalValue r.line)) := by
  unfold announced
  by_cases same : previous = some (placeOf files r)
  · obtain ⟨bound, source⟩ : (placeOf files r).1 ≤ files.length ∧
        s.source = some (t.locate (placeOf files r).1 (decimalValue r.line)) := follows _ _ same
    have known : r.file ∈ files := by
      by_contra new
      rw [placeOf_of_new new] at bound
      omega
    rw [if_pos same, if_pos known]
    exact source
  · rw [if_neg same, Standing.after, List.foldl_append, List.foldl_cons, List.foldl_nil,
      Standing.next_source _ _ (by rw [classify_locLine]; decide), endsBlock_locLine _ sound.digits,
      location?_locLine _ sound.numbered sound.digits]
    rfl

theorem isWritten_of_mem_announced (sound : r.IsSound) {line : List Char} (h : line ∈ announced files previous r) :
    IsWritten line ∧ classify line = .directive := by
  rcases List.mem_append.mp h with h | h
  · split at h
    · cases h
    · rw [List.mem_singleton.mp h]
      exact ⟨isWritten_fileLine _ sound.fileOneLine, classify_fileLine _ _⟩
  · split at h
    · cases h
    · rw [List.mem_singleton.mp h]
      exact ⟨isWritten_locLine _ sound.numbered sound.digits, classify_locLine _ _⟩

end Walk

theorem isWritten_of_mem_assembleFrom {records : List Record} (sound : ∀ r ∈ records, r.IsSound)
    {files : List (List Char)} {previous : Option (Nat × List Char)} {line : List Char}
    (h : line ∈ assembleFrom files previous records) : IsWritten line := by
  induction records generalizing files previous with
  | nil => cases h
  | cons r rest ih =>
    have hr := sound r (List.mem_cons_self ..)
    rw [assembleFrom_cons] at h
    rcases List.mem_append.mp h with h | h
    · exact (isWritten_of_mem_announced hr h).1
    · rcases List.mem_cons.mp h with rfl | h
      · exact isWritten_instruction hr
      · exact ih (fun r hr => sound r (List.mem_cons_of_mem _ hr)) h

def instructionLines (lines : List Line) : List (String × Option SourceLocation) :=
  (lines.filter fun l => isInstruction l.letters).map fun l => (l.text, l.source)

def Record.listed (r : Record) : String × Option SourceLocation :=
  (String.ofList (expandTabs (instruction r)), some ⟨decimalValue r.line, some (String.ofList r.file)⟩)

/-- The instruction of a record carries an opcode, and its operands end no block. -/
def Record.KeepsPlace (r : Record) : Prop := hasOpcode (instruction r) = true ∧ endsBlock r.operands = false

theorem instructionLines_append (before after : List Line) :
    instructionLines (before ++ after) = instructionLines before ++ instructionLines after := by
  rw [instructionLines, List.filter_append, List.map_append]
  rfl

section Steps
variable {t : Tables} {files : List (List Char)} {previous : Option (Nat × List Char)} {s : Standing} {r : Record}

theorem instructionLines_announced (sound : r.IsSound) :
    instructionLines (textualFrom {} t s (announced files previous r)) = [] := by
  have none : (textualFrom {} t s (announced files previous r)).filter (fun l => isInstruction l.letters) = [] := by
    rw [List.filter_eq_nil_iff]
    intro l there
    obtain ⟨line, hline, here, -, rfl⟩ := mem_textualFrom there
    obtain ⟨written, directive⟩ := isWritten_of_mem_announced sound hline
    rw [isInstruction_of_relaid (relaid_shownLine here line) written.oneLine, isInstruction, directive]
    decide
  rw [instructionLines, none]
  rfl

theorem instructionLines_instruction (sound : r.IsSound) :
    instructionLines [shownLine s (classify (instruction r)) (instruction r)] =
      if isInstruction (instruction r) then
        [(String.ofList (expandTabs (instruction r)), if hasOpcode (instruction r) then s.source else none)]
      else [] := by
  have same := isInstruction_of_relaid (relaid_shownLine s (instruction r)) (newline_not_mem_instruction sound)
  cases kind : isInstruction (instruction r) with
  | false => simp [instructionLines, same, kind]
  | true =>
    have shown : shownLine s (classify (instruction r)) (instruction r) =
        ⟨String.ofList (expandTabs (instruction r)), if hasOpcode (instruction r) then s.source else none,
          none, none, []⟩ := by
      rw [beq_iff_eq.mp kind]
      rfl
    rw [shown] at same ⊢
    simp [instructionLines, same, kind]

def standingPast (t : Tables) (files : List (List Char)) (previous : Option (Nat × List Char)) (s : Standing)
    (r : Record) : Standing :=
  (s.after t (announced files previous r)).next t (instruction r)

theorem visible_instruction (sound : r.IsSound) : classify (instruction r) ≠ .blank := by
  obtain ⟨c, small, tail, begins⟩ := instruction_begins sound
  rw [begins, classify_letter small]
  split <;> decide

theorem source_past (sound : r.IsSound) (follows : Follows t files previous s) :
    (standingPast t files previous s r).source =
      if endsBlock r.operands then none else some (t.locate (placeOf files r).1 (decimalValue r.line)) := by
  obtain ⟨c, small, tail, begins⟩ := instruction_begins sound
  have silent : location? (instruction r) = none := begins ▸ location?_letter small tail
  rw [standingPast, Standing.next_source _ _ (visible_instruction sound), silent, endsBlock_instruction sound,
    source_announced sound follows]

theorem follows_past (sound : r.IsSound) (follows : Follows t files previous s) (quiet : endsBlock r.operands = false) :
    Follows t (filesWith files r) (some (placeOf files r)) (standingPast t files previous s r) := by
  intro n line same
  obtain ⟨rfl, rfl⟩ : n = (placeOf files r).1 ∧ line = r.line := Prod.mk.inj (Option.some.inj same.symm)
  refine ⟨?_, by rw [source_past sound follows, quiet]; rfl⟩
  exact (List.getElem?_eq_some_iff.mp (getElem?_filesWith files r)).1

theorem instructionLines_cons (sound : r.IsSound) (rest : List Record) :
    instructionLines (textualFrom {} t s (assembleFrom files previous (r :: rest))) =
      (if isInstruction (instruction r) then
          [(String.ofList (expandTabs (instruction r)),
            if hasOpcode (instruction r) then (standingPast t files previous s r).source else none)]
        else []) ++
        instructionLines (textualFrom {} t (standingPast t files previous s r)
          (assembleFrom (filesWith files r) (some (placeOf files r)) rest)) := by
  have kept (here : Standing) : isKept {} t here (classify (instruction r)) (instruction r) = true := by
    cases classify (instruction r) <;> rfl
  rw [assembleFrom_cons, textualFrom_append, instructionLines_append, instructionLines_announced sound,
    textualFrom_cons, if_pos (kept _), instructionLines_append, instructionLines_instruction sound, List.nil_append]
  rfl

theorem locate_placeOf (sound : r.IsSound) (named : r.IsNamed) (primary : t.primary = none)
    (numbers : Numbers t.files (filesWith files r)) (line : Nat) :
    t.locate (placeOf files r).1 line = ⟨line, some (String.ofList r.file)⟩ := by
  have found := numbers _ _ (getElem?_filesWith files r)
  have notFeed : r.file ≠ ['-', '\n'] := fun same => sound.fileOneLine (same ▸ by decide)
  have shown : sourceFile none (String.ofList r.file) = some (String.ofList r.file) := by
    simp [sourceFile, isStdin, named.notDash, named.notStdin, notFeed]
  rw [Tables.locate, placeOf, found, primary]
  exact congrArg _ shown

end Steps

section Run
variable {t : Tables} {records : List Record} {files : List (List Char)} {previous : Option (Nat × List Char)}
  {s : Standing} (sound : ∀ r ∈ records, r.IsSound)
include sound

theorem instructionLines_length_le :
    (instructionLines (textualFrom {} t s (assembleFrom files previous records))).length ≤ records.length := by
  induction records generalizing files previous s with
  | nil => exact Nat.le_refl 0
  | cons r rest ih =>
    have later := @ih (filesWith files r) (some (placeOf files r)) (standingPast t files previous s r)
      fun r hr => sound r (List.mem_cons_of_mem _ hr)
    rw [instructionLines_cons (sound r (List.mem_cons_self ..)), List.length_append, List.length_cons]
    split
    · rw [List.length_singleton]
      omega
    · rw [List.length_nil]
      omega

theorem instructionLines_assembleFrom (named : ∀ r ∈ records, r.IsNamed) (primary : t.primary = none)
    (numbers : Numbers t.files (records.foldl filesWith files)) (follows : Follows t files previous s) :
    instructionLines (textualFrom {} t s (assembleFrom files previous records)) = records.map Record.listed ↔
      ∀ r ∈ records, r.KeepsPlace := by
  induction records generalizing files previous s with
  | nil => simp [assembleFrom, textualFrom, instructionLines]
  | cons r rest ih =>
    have soundRest : ∀ r ∈ rest, r.IsSound := fun r hr => sound r (List.mem_cons_of_mem _ hr)
    have hr := sound r (List.mem_cons_self ..)
    have place := locate_placeOf hr (named r (List.mem_cons_self ..)) primary
      (numbers.of_prefix (prefix_foldl_filesWith _ rest)) (decimalValue r.line)
    rw [instructionLines_cons hr, source_past hr follows, place, List.map_cons, List.forall_mem_cons]
    cases kind : isInstruction (instruction r) with
    | true =>
      have here : (String.ofList (expandTabs (instruction r)),
          if hasOpcode (instruction r) then
            (if endsBlock r.operands then none else some ⟨decimalValue r.line, some (String.ofList r.file)⟩)
          else none) = r.listed ↔ r.KeepsPlace := by
        unfold Record.listed Record.KeepsPlace
        cases hasOpcode (instruction r) <;> cases endsBlock r.operands <;> simp
      rw [if_pos rfl, List.singleton_append, List.cons.injEq, here]
      exact and_congr_right fun keeps =>
        ih soundRest (fun r hr => named r (List.mem_cons_of_mem _ hr)) numbers (follows_past hr follows keeps.2)
    | false =>
      -- A record is missing, so that there are too few lines.
      refine iff_of_false (fun same => ?_) fun keeps => ?_
      · have few : (instructionLines (textualFrom {} t (standingPast t files previous s r)
            (assembleFrom (filesWith files r) (some (placeOf files r)) rest))).length ≤ rest.length :=
          instructionLines_length_le soundRest
        have many := congrArg List.length same
        simp only [if_neg Bool.false_ne_true, List.nil_append, List.length_cons, List.length_map] at many
        omega
      · obtain ⟨c, small, tail, begins⟩ := instruction_begins hr
        have opcode := keeps.1.1
        rw [begins] at kind opcode
        rw [isInstruction_of_hasOpcode small tail opcode] at kind
        cases kind

end Run

section Numerals
variable {files : List (List Char)} {previous : Option (Nat × List Char)} {r : Record}

theorem forall_mem_textualNumerals_append {p : List Char → Prop} {before after : List (List Char)} :
    (∀ digits ∈ textualNumerals (before ++ after), p digits) ↔
      (∀ digits ∈ textualNumerals before, p digits) ∧ ∀ digits ∈ textualNumerals after, p digits := by
  simp only [textualNumerals, List.filterMap_append, List.map_append, List.flatMap_append, List.forall_mem_append]
  tauto

theorem textualNumerals_announced (sound : r.IsSound) (named : r.IsNamed) :
    textualNumerals (announced files previous r) =
      (if r.file ∈ files then [] else [Nat.toDigits 10 (files.length + 1)]) ++
        if previous = some (placeOf files r) then [] else [Nat.toDigits 10 (placeOf files r).1, r.line] := by
  unfold announced textualNumerals
  split <;> split <;>
    simp [fileParts?_fileLine _ sound.named named.plain, locationParts?_fileLine, fileParts?_locLine,
      locationParts?_locLine _ sound.numbered sound.digits]

theorem textualNumerals_instruction (sound : r.IsSound) (rest : List (List Char)) :
    textualNumerals (instruction r :: rest) = textualNumerals rest := by
  obtain ⟨c, small, tail, begins⟩ := instruction_begins sound
  rw [begins, textualNumerals, List.filterMap_cons_none (fileParts?_letter small tail),
    List.filterMap_cons_none (locationParts?_letter small tail)]
  rfl

/-- The number of some files is written with few enough digits to be read. -/
def IsFew (n : Nat) : Prop := (Nat.toDigits 10 n).length ≤ maxDigits

instance (n : Nat) : Decidable (IsFew n) := inferInstanceAs (Decidable (_ ≤ _))

theorem IsFew.of_le {m n : Nat} (few : IsFew n) (h : m ≤ n) : IsFew m := by
  have bound : n < 10 ^ (Nat.toDigits 10 n).length :=
    (Nat.length_toDigits_le_iff (by decide) Nat.length_toDigits_pos).mp (Nat.le_refl _)
  have shorter : (Nat.toDigits 10 m).length ≤ (Nat.toDigits 10 n).length :=
    (Nat.length_toDigits_le_iff (by decide) Nat.length_toDigits_pos).mpr (Nat.lt_of_le_of_lt h bound)
  exact shorter.trans few

theorem placeOf_le (files : List (List Char)) (r : Record) : (placeOf files r).1 ≤ (filesWith files r).length :=
  (List.getElem?_eq_some_iff.mp (getElem?_filesWith files r)).1

theorem legible_announced (sound : r.IsSound) (named : r.IsNamed) (few : IsFew files.length)
    (before : ∀ n line, previous = some (n, line) → line.length ≤ maxDigits) :
    (∀ digits ∈ textualNumerals (announced files previous r), digits.length ≤ maxDigits) ↔
      r.line.length ≤ maxDigits ∧ IsFew (filesWith files r).length := by
  rw [textualNumerals_announced sound named]
  have short (repeated : previous = some (placeOf files r)) : r.line.length ≤ maxDigits := before _ _ repeated
  by_cases known : r.file ∈ files
  · have same : filesWith files r = files := if_pos known
    have place : (Nat.toDigits 10 (placeOf files r).1).length ≤ maxDigits := by
      have bound := placeOf_le files r
      rw [same] at bound
      exact few.of_le bound
    rw [if_pos known, same]
    split
    · rename_i repeated
      simpa [few] using short repeated
    · simpa [few] using fun _ => place
  · have length : (filesWith files r).length = files.length + 1 := by simp [filesWith, known]
    rw [if_neg known, placeOf_of_new known, length]
    split
    · rename_i repeated
      simpa [IsFew] using fun _ => short (placeOf_of_new known ▸ repeated)
    · simp only [List.cons_append, List.nil_append, List.forall_mem_cons, List.not_mem_nil, false_implies,
        implies_true, and_true, IsFew]
      tauto

theorem legible_assembleFrom {records : List Record} (sound : ∀ r ∈ records, r.IsSound)
    (named : ∀ r ∈ records, r.IsNamed) (few : IsFew files.length)
    (before : ∀ n line, previous = some (n, line) → line.length ≤ maxDigits) :
    (∀ digits ∈ textualNumerals (assembleFrom files previous records), digits.length ≤ maxDigits) ↔
      (∀ r ∈ records, r.line.length ≤ maxDigits) ∧ IsFew (records.foldl filesWith files).length := by
  induction records generalizing files previous with
  | nil => simpa [assembleFrom, textualNumerals] using few
  | cons r rest ih =>
    have hr := sound r (List.mem_cons_self ..)
    have more : (filesWith files r).length ≤ (rest.foldl filesWith (filesWith files r)).length :=
      (prefix_foldl_filesWith _ rest).length_le
    rw [assembleFrom_cons, forall_mem_textualNumerals_append, textualNumerals_instruction hr,
      legible_announced hr (named r (List.mem_cons_self ..)) few before, List.forall_mem_cons, List.foldl_cons]
    have later (short : r.line.length ≤ maxDigits) (few' : IsFew (filesWith files r).length) :=
      @ih (filesWith files r) (some (placeOf files r)) (fun r hr => sound r (List.mem_cons_of_mem _ hr))
        (fun r hr => named r (List.mem_cons_of_mem _ hr)) few'
        fun n line same => (Prod.mk.inj (Option.some.inj same)).2 ▸ short
    constructor
    · rintro ⟨⟨short, few'⟩, shown⟩
      obtain ⟨shortRest, all⟩ := (later short few').mp shown
      exact ⟨⟨short, shortRest⟩, all⟩
    · rintro ⟨⟨short, shortRest⟩, all⟩
      have few' := all.of_le more
      exact ⟨⟨short, few'⟩, (later short few').mpr ⟨shortRest, all⟩⟩

end Numerals

instance (r : Record) : Decidable r.IsNamed :=
  decidable_of_iff ('"' ∉ r.file ∧ r.file ≠ ['-'] ∧ occursIn stdinMark r.file = false)
    ⟨fun ⟨plain, notDash, notStdin⟩ => ⟨plain, notDash, notStdin⟩,
      fun named => ⟨named.plain, named.notDash, named.notStdin⟩⟩

instance (r : Record) : Decidable r.KeepsPlace := inferInstanceAs (Decidable (_ ∧ _))

theorem listingLines_toText {lines : List (List Char)} (sound : ∀ r ∈ lines.filterMap record?, r.IsSound) :
    listingLines (toText lines) = assemble (lines.filterMap record?) := by
  have written (line : List Char) (h : line ∈ assemble (lines.filterMap record?)) := isWritten_of_mem_assembleFrom sound h
  refine listingLines_intercalate (fun line h => (written line h).oneLine) (fun line h none => ?_)
    fun line h => (written line h).ended
  have begins := (written line h).begins
  rw [none] at begins
  cases begins

theorem isNotice_of_isWritten {lines : List (List Char)} (written : ∀ line ∈ lines, IsWritten line) :
    isNotice lines = false := by
  unfold isNotice
  split
  · rename_i line
    rw [(written line (List.mem_singleton_self _)).begins]
    decide
  · rfl

/-- A trace keeps its places just if every record does. Written as assembler text and listed without filters, its
instructions are then its records in order, each with its own file and line. It is not listed at all if a line number has
too many digits, or the number of the files. A record fails if its operands make it something else than an instruction,
or if an end of a block stands among them. -/
theorem positions_kept_iff {lines : List (List Char)} (oneLine : ∀ line ∈ lines, '\n' ∉ line)
    (named : ∀ r ∈ lines.filterMap record?, r.IsNamed) :
    (∃ listed, read {} {} (String.ofList (toText lines)) = .ok listed ∧
      instructionLines listed = (lines.filterMap record?).map Record.listed) ↔
      ((∀ r ∈ lines.filterMap record?, r.line.length ≤ maxDigits) ∧
        IsFew ((lines.filterMap record?).foldl filesWith []).length) ∧
      ∀ r ∈ lines.filterMap record?, r.KeepsPlace := by
  have sound : ∀ r ∈ lines.filterMap record?, r.IsSound := by
    intro r hr
    obtain ⟨line, hline, read⟩ := List.mem_filterMap.mp hr
    exact record?_sound read (oneLine line hline)
  have lines' : listingLines (String.ofList (toText lines)).toList = assemble (lines.filterMap record?) := by
    rw [String.toList_ofList, listingLines_toText sound]
  have several : isNotice (listingLines (String.ofList (toText lines)).toList) = false := by
    rw [lines']
    exact isNotice_of_isWritten fun line h => isWritten_of_mem_assembleFrom sound h
  have legible : IsLegible {} (String.ofList (toText lines)) ↔
      (∀ r ∈ lines.filterMap record?, r.line.length ≤ maxDigits) ∧
        IsFew ((lines.filterMap record?).foldl filesWith []).length := by
    rw [IsLegible, numerals, several, if_neg Bool.false_ne_true, if_neg Bool.false_ne_true, lines']
    exact legible_assembleFrom sound named (by decide) fun n line found => by cases found
  have unnumbered : Numbers [] [] := fun n file found => by cases found
  have numbers := numbers_assembleFrom sound named unnumbered none
  rw [List.append_nil] at numbers
  have kept : instructionLines (ofText {} {} (String.ofList (toText lines))) =
      (lines.filterMap record?).map Record.listed ↔ ∀ r ∈ lines.filterMap record?, r.KeepsPlace := by
    rw [ofText_textual rfl rfl several, if_neg Bool.false_ne_true, lines']
    exact instructionLines_assembleFrom sound named rfl numbers fun n line found => by cases found
  rw [← legible, ← kept]
  simp only [read_eq_ok_iff]
  constructor
  · rintro ⟨listed, ⟨short, rfl⟩, same⟩
    exact ⟨short, same⟩
  · rintro ⟨short, same⟩
    exact ⟨_, ⟨short, rfl⟩, same⟩

/-- Two files, the second of which has the end of a block in its name. -/
def twoFiles : List (List Char) :=
  ["1 (a.go:3) MOVQ AX, BX", "2 (a.go:3) RET", "no record", "3 (b.data:7) NOP", "4 (a.go:3) RET"].map String.toList

theorem positions_kept_twoFiles :
    ∃ listed, read {} {} (String.ofList (toText twoFiles)) = .ok listed ∧ instructionLines listed =
      [("        movq AX, BX", some ⟨3, some "a.go"⟩), ("        ret", some ⟨3, some "a.go"⟩),
        ("        nop", some ⟨7, some "b.data"⟩), ("        ret", some ⟨3, some "a.go"⟩)] := by
  have oneLine : ∀ line ∈ twoFiles, '\n' ∉ line := by decide +kernel
  have named : ∀ r ∈ twoFiles.filterMap record?, r.IsNamed := by decide +kernel
  have keep : ∀ r ∈ twoFiles.filterMap record?, r.KeepsPlace := by decide +kernel
  have short : ∀ r ∈ twoFiles.filterMap record?, r.line.length ≤ maxDigits := by decide +kernel
  have few : IsFew ((twoFiles.filterMap record?).foldl filesWith []).length := by decide +kernel
  obtain ⟨listed, whole, places⟩ := (positions_kept_iff oneLine named).mpr ⟨⟨short, few⟩, keep⟩
  exact ⟨listed, whole, places.trans (by decide +kernel)⟩

def dataOperand : List (List Char) :=
  ["1 (a.go:3) MOVQ x.data(SB), AX", "2 (a.go:3) RET"].map String.toList

/-- The place is lost, and the record below it loses its place too. -/
theorem positions_lost_dataOperand :
    (∀ line ∈ dataOperand, '\n' ∉ line) ∧ (∀ r ∈ dataOperand.filterMap record?, r.IsNamed) ∧
      (dataOperand.filterMap record?).map Record.listed =
        [("        movq x.data(SB), AX", some ⟨3, some "a.go"⟩), ("        ret", some ⟨3, some "a.go"⟩)] ∧
      (read {} {} (String.ofList (toText dataOperand))).map instructionLines =
        .ok [("        movq x.data(SB), AX", none), ("        ret", none)] := by
  decide +kernel

end AsmScope.Trace
