import AsmScope.Proofs.Trace.Positions
import AsmScope.Text.Find

/-! Records that go through assembler text and come back. A reader that gathers the names of the files as it goes, and
keeps the last place, finds every record again with its file, its line and its text. Each file is named once, before it
is used, and a place is written just where it changes. -/

namespace AsmScope.Trace
open AsmScope.Text AsmScope.Listing

def numbered? (word line : List Char) : Option (Nat × List Char) :=
  (after? ('\t' :: '.' :: (word ++ [' '])) line).bind fun r =>
    (after? [' '] (r.dropWhile isAsciiDigit)).map fun rest => (decimalValue (r.takeWhile isAsciiDigit), rest)

def unquoted? : List Char → Option (List Char)
  | '"' :: r => if r.getLast? = some '"' then some r.dropLast else none
  | _ => none

def namedFile? (line : List Char) : Option (Nat × String) :=
  (numbered? "file".toList line).bind fun (number, rest) => (unquoted? rest).map fun name => (number, String.ofList name)

def givenPlace? (line : List Char) : Option (Nat × String) :=
  (numbered? "loc".toList line).map fun (number, rest) => (number, String.ofList rest)

def isRecordLine (line : List Char) : Bool := (namedFile? line).isNone && (givenPlace? line).isNone

/-- A reader of the text. A line that names a file adds to its table, and one that gives a place moves it there; each
remaining line is read without its tab, with the file and the line where it stands. -/
def recoverFrom : FileTable → Option (String × String) → List (List Char) → List (Option (String × String) × String)
  | _, _, [] => []
  | table, place, line :: rest =>
    match namedFile? line, givenPlace? line with
    | some entry, _ => recoverFrom (entry :: table) place rest
    | none, some (number, at_) => recoverFrom table ((table.lookup number).map (·, at_)) rest
    | none, none => (place, String.ofList line.tail) :: recoverFrom table place rest

def recover (text : List Char) : List (Option (String × String) × String) := recoverFrom [] none (listingLines text)

def Record.place (r : Record) : String × String := (String.ofList r.file, String.ofList r.line)

def Record.text (r : Record) : String := String.ofList (r.opcode.map Char.toLower ++ r.operands)

section Lines

theorem after?_append (s r : List Char) : after? s (s ++ r) = some r := after?_eq_some_iff.mpr rfl

theorem numbered?_of_digits (word : List Char) (n : Nat) (rest : List Char) :
    numbered? word ('\t' :: '.' :: (word ++ ' ' :: (Nat.toDigits 10 n ++ ' ' :: rest))) = some (n, rest) := by
  have split : '\t' :: '.' :: (word ++ ' ' :: (Nat.toDigits 10 n ++ ' ' :: rest)) =
      ('\t' :: '.' :: (word ++ [' '])) ++ (Nat.toDigits 10 n ++ ' ' :: rest) := by simp
  have digits : ∀ c ∈ Nat.toDigits 10 n, isAsciiDigit c = true := fun c => isAsciiDigit_toDigits
  have ends : ∀ c ∈ (' ' :: rest).head?, isAsciiDigit c = false := by simpa using by decide
  rw [numbered?, split, after?_append, Option.bind_some, dropWhile_run digits ends, takeWhile_run digits ends,
    decimalValue_toDigits]
  rfl

theorem namedFile?_fileLine (n : Nat) (file : List Char) :
    namedFile? (fileLine n file) = some (n, String.ofList file) := by
  rw [namedFile?, fileLine_eq, numbered?_of_digits]
  simp [unquoted?]

theorem givenPlace?_locLine (n : Nat) (line : List Char) :
    givenPlace? (locLine n line) = some (n, String.ofList line) := by
  rw [givenPlace?, locLine_eq, numbered?_of_digits]
  rfl

theorem namedFile?_locLine (n : Nat) (line : List Char) : namedFile? (locLine n line) = none := by
  rw [locLine_eq]
  rfl

section Instruction
variable {r : Record} (sound : r.IsSound)
include sound

theorem numbered?_instruction (word : List Char) : numbered? word (instruction r) = none := by
  obtain ⟨c, small, tail, begins⟩ := instruction_begins sound
  simp [begins, numbered?, after?, (ne_point_of_small small).symm]

theorem namedFile?_instruction : namedFile? (instruction r) = none := by
  rw [namedFile?, numbered?_instruction sound]
  rfl

theorem givenPlace?_instruction : givenPlace? (instruction r) = none := by
  rw [givenPlace?, numbered?_instruction sound]
  rfl

theorem isRecordLine_instruction : isRecordLine (instruction r) = true := by
  rw [isRecordLine, namedFile?_instruction sound, givenPlace?_instruction sound]
  rfl

end Instruction
end Lines

section Reader
variable (table : FileTable) (place : Option (String × String)) (rest : List (List Char))

theorem recoverFrom_fileLine (n : Nat) (file : List Char) :
    recoverFrom table place (fileLine n file :: rest) = recoverFrom ((n, String.ofList file) :: table) place rest := by
  rw [recoverFrom, namedFile?_fileLine]

theorem recoverFrom_locLine (n : Nat) (line : List Char) :
    recoverFrom table place (locLine n line :: rest) =
      recoverFrom table ((table.lookup n).map (·, String.ofList line)) rest := by
  rw [recoverFrom, namedFile?_locLine, givenPlace?_locLine]

theorem recoverFrom_instruction {r : Record} (sound : r.IsSound) :
    recoverFrom table place (instruction r :: rest) = (place, r.text) :: recoverFrom table place rest := by
  rw [recoverFrom, namedFile?_instruction sound, givenPlace?_instruction sound]
  rfl

end Reader

def placeWritten (files : List (List Char)) (last : Option Record) : Option (Nat × List Char) :=
  last.map fun q => (files.idxOf q.file + 1, q.line)

section Step
variable {files : List (List Char)} {last : Option Record} {r : Record}

theorem file_mem_filesWith (files : List (List Char)) (r : Record) : r.file ∈ filesWith files r :=
  List.mem_of_getElem? (getElem?_filesWith files r)

/-- The numbers tell the files apart, so that the writer leaves a location out just where the place stays. -/
theorem placeWritten_eq_iff (known : ∀ q ∈ last, q.file ∈ files) :
    placeWritten files last = some (placeOf files r) ↔ last.map Record.place = some r.place := by
  cases last with
  | none => simp [placeWritten]
  | some q =>
    have mem : q.file ∈ files := known q rfl
    have named : files.idxOf q.file = (filesWith files r).idxOf r.file ↔ q.file = r.file := by
      by_cases old : r.file ∈ files
      · rw [filesWith, if_pos old, List.idxOf_inj mem]
      · have other : q.file ≠ r.file := ne_of_mem_of_not_mem mem old
        rw [filesWith, if_neg old, idxOf_new old]
        exact iff_of_false (List.idxOf_lt_length_of_mem mem).ne other
    simp [placeWritten, placeOf, Record.place, named, String.ofList_inj]

theorem announced_of_same (known : ∀ q ∈ last, q.file ∈ files)
    (same : placeWritten files last = some (placeOf files r)) : announced files (placeWritten files last) r = [] := by
  obtain ⟨q, here, place⟩ := Option.map_eq_some_iff.mp ((placeWritten_eq_iff known).mp same)
  have file : q.file = r.file := String.ofList_injective (congrArg Prod.fst place)
  rw [announced, if_pos (file ▸ known q here), if_pos same, List.append_nil]

/-- After what is announced the reader knows the files so far and holds the place of the record. -/
theorem recoverFrom_announced {table : FileTable} (numbers : Numbers table files)
    (known : ∀ q ∈ last, q.file ∈ files) (rest : List (List Char)) :
    ∃ table', Numbers table' (filesWith files r) ∧
      recoverFrom table (last.map Record.place) (announced files (placeWritten files last) r ++ rest) =
        recoverFrom table' (some r.place) rest := by
  -- Wherever a location is written, its number is looked up among the files with this one.
  have located {table' : FileTable} (numbers' : Numbers table' (filesWith files r)) :
      recoverFrom table' (last.map Record.place)
          ((if placeWritten files last = some (placeOf files r) then []
            else [locLine (placeOf files r).1 r.line]) ++ rest) =
        recoverFrom table' (some r.place) rest := by
    split
    · rename_i same
      rw [(placeWritten_eq_iff known).mp same, List.nil_append]
    · have found : table'.lookup (placeOf files r).1 = some (String.ofList r.file) :=
        numbers' _ _ (getElem?_filesWith files r)
      rw [List.singleton_append, recoverFrom_locLine, found]
      rfl
  by_cases old : r.file ∈ files
  · have numbers' : Numbers table (filesWith files r) := by rwa [filesWith, if_pos old]
    refine ⟨table, numbers', ?_⟩
    rw [announced, if_pos old, List.nil_append]
    exact located numbers'
  · have numbers' : Numbers ((files.length + 1, String.ofList r.file) :: table) (filesWith files r) := by
      rw [filesWith, if_neg old]
      exact numbers.concat r.file
    refine ⟨_, numbers', ?_⟩
    rw [announced, if_neg old, List.singleton_append, List.cons_append, recoverFrom_fileLine]
    exact located numbers'

theorem filter_isRecordLine_announced (files : List (List Char)) (previous : Option (Nat × List Char)) (r : Record) :
    (announced files previous r).filter isRecordLine = [] := by
  have file (n : Nat) : isRecordLine (fileLine n r.file) = false := by
    simp [isRecordLine, namedFile?_fileLine]
  have place (n : Nat) : isRecordLine (locLine n r.line) = false := by
    simp [isRecordLine, givenPlace?_locLine]
  unfold announced
  split <;> split <;> simp [file, place]

theorem filterMap_namedFile?_announced (files : List (List Char)) (previous : Option (Nat × List Char)) (r : Record) :
    (announced files previous r).filterMap namedFile? =
      if r.file ∈ files then [] else [(files.length + 1, String.ofList r.file)] := by
  unfold announced
  split <;> split <;> simp [namedFile?_fileLine, namedFile?_locLine]

end Step

section Run
variable {records : List Record} (sound : ∀ r ∈ records, r.IsSound)
include sound

theorem recoverFrom_assembleFrom {table : FileTable} {files : List (List Char)} {last : Option Record}
    (numbers : Numbers table files) (known : ∀ q ∈ last, q.file ∈ files) :
    recoverFrom table (last.map Record.place) (assembleFrom files (placeWritten files last) records) =
      records.map fun r => (some r.place, r.text) := by
  induction records generalizing table files last with
  | nil => rfl
  | cons r rest ih =>
    obtain ⟨hr, soundRest⟩ := List.forall_mem_cons.mp sound
    obtain ⟨table', numbers', announces⟩ := recoverFrom_announced (r := r) numbers known
      (instruction r :: assembleFrom (filesWith files r) (placeWritten (filesWith files r) (some r)) rest)
    have known' : ∀ q ∈ some r, q.file ∈ filesWith files r := by
      rintro q ⟨⟩
      exact file_mem_filesWith files r
    rw [recoverFrom_instruction _ _ _ hr] at announces
    rw [assembleFrom_cons, List.map_cons, ← ih soundRest numbers' known']
    exact announces

theorem filter_isRecordLine_assembleFrom (files : List (List Char)) (previous : Option (Nat × List Char)) :
    (assembleFrom files previous records).filter isRecordLine = records.map instruction := by
  induction records generalizing files previous with
  | nil => rfl
  | cons r rest ih =>
    obtain ⟨hr, soundRest⟩ := List.forall_mem_cons.mp sound
    rw [assembleFrom_cons, List.filter_append, filter_isRecordLine_announced, List.nil_append,
      List.filter_cons_of_pos (isRecordLine_instruction hr), ih soundRest, List.map_cons]

theorem filterMap_namedFile?_assembleFrom (files : List (List Char)) (previous : Option (Nat × List Char)) :
    ∃ new, records.foldl filesWith files = files ++ new ∧
      (assembleFrom files previous records).filterMap namedFile? =
        (new.zipIdx (files.length + 1)).map fun (file, number) => (number, String.ofList file) := by
  induction records generalizing files previous with
  | nil => exact ⟨[], (List.append_nil files).symm, rfl⟩
  | cons r rest ih =>
    obtain ⟨hr, soundRest⟩ := List.forall_mem_cons.mp sound
    obtain ⟨new, gathered, names⟩ := ih soundRest (filesWith files r) (some (placeOf files r))
    rw [assembleFrom_cons, List.filterMap_append, filterMap_namedFile?_announced,
      List.filterMap_cons_none (namedFile?_instruction hr), List.foldl_cons, gathered, names]
    by_cases old : r.file ∈ files
    · rw [filesWith, if_pos old, if_pos old]
      exact ⟨new, rfl, rfl⟩
    · rw [filesWith, if_neg old, if_neg old]
      refine ⟨r.file :: new, List.append_assoc .., ?_⟩
      rw [List.length_append, List.zipIdx_cons, List.map_cons]
      rfl

end Run

section Split

theorem getLast?_assembleFrom (files : List (List Char)) (previous : Option (Nat × List Char)) (records : List Record) :
    (assembleFrom files previous records).getLast? = records.getLast?.map instruction := by
  induction records generalizing files previous with
  | nil => rfl
  | cons r rest ih =>
    rw [assembleFrom_cons, List.getLast?_append, List.getLast?_cons, ih, List.getLast?_cons, Option.getD_map]
    rfl

theorem assembleFrom_append (files : List (List Char)) (last : Option Record) (before after : List Record) :
    assembleFrom files (placeWritten files last) (before ++ after) =
      assembleFrom files (placeWritten files last) before ++
        assembleFrom (before.foldl filesWith files)
          (placeWritten (before.foldl filesWith files) (before.getLast?.or last)) after := by
  induction before generalizing files last with
  | nil => rfl
  | cons r rest ih =>
    have goesOn := ih (filesWith files r) (some r)
    have last' : (r :: rest).getLast?.or last = rest.getLast?.or (some r) := by
      rw [List.getLast?_cons]
      cases rest.getLast? <;> rfl
    rw [List.cons_append, assembleFrom_cons, assembleFrom_cons, List.append_assoc, List.cons_append, last',
      List.foldl_cons]
    exact congrArg (fun lines => announced files (placeWritten files last) r ++ instruction r :: lines) goesOn

theorem foldl_filesWith (records : List Record) :
    records.foldl filesWith [] = (records.map Record.file).eraseDups := by
  induction records using List.reverseRecOn with
  | nil => rfl
  | append_singleton before r ih =>
    rw [List.foldl_concat, ih, List.map_append, List.map_singleton, List.eraseDups_append, filesWith]
    by_cases old : r.file ∈ before.map Record.file
    · rw [if_pos (List.mem_eraseDups.mpr old)]
      simp [List.cons_removeAll, List.mem_map.mp old]
    · rw [if_neg (mt List.mem_eraseDups.mp old)]
      simp [List.cons_removeAll, List.eraseDups_cons, old]

end Split

def numberedFiles (records : List Record) : List (Nat × String) :=
  ((records.map Record.file).eraseDups.zipIdx 1).map fun (file, number) => (number, String.ofList file)

/-- The line of a record stands below the lines of the records before it. All their files and its own are named by
then, and a location stands right above just where the place changes. -/
structure StandsBelow (above : List (List Char)) (before : List Record) (r : Record) : Prop where
  records : above.filter isRecordLine = before.map instruction
  files : above.filterMap namedFile? = numberedFiles (before ++ [r])
  location : (above.getLast?.bind givenPlace?).isSome ↔ before.getLast?.map Record.place ≠ some r.place

theorem filterMap_namedFile?_assemble {records : List Record} (sound : ∀ r ∈ records, r.IsSound) :
    (assemble records).filterMap namedFile? = numberedFiles records := by
  obtain ⟨new, gathered, names⟩ := filterMap_namedFile?_assembleFrom sound [] none
  rw [foldl_filesWith, List.nil_append] at gathered
  rw [assemble, names, numberedFiles, gathered]
  rfl

def writtenAbove (before : List Record) (r : Record) : List (List Char) :=
  let files := before.foldl filesWith []
  assemble before ++ announced files (placeWritten files before.getLast?) r

theorem assemble_split (before : List Record) (r : Record) (after : List Record) :
    assemble (before ++ r :: after) =
      writtenAbove before r ++
        instruction r ::
          assembleFrom (filesWith (before.foldl filesWith []) r) (some (placeOf (before.foldl filesWith []) r)) after := by
  have goesOn := assembleFrom_append [] none before (r :: after)
  rw [assembleFrom_cons, Option.or_none, ← List.append_assoc] at goesOn
  exact goesOn

theorem givenPlace?_above {before : List Record} (sound : ∀ q ∈ before, q.IsSound) (r : Record) :
    ((writtenAbove before r).getLast?.bind givenPlace?).isSome ↔ before.getLast?.map Record.place ≠ some r.place := by
  have known : ∀ q ∈ before.getLast?, q.file ∈ before.foldl filesWith [] := by
    intro q last
    rw [foldl_filesWith, List.mem_eraseDups]
    exact List.mem_map_of_mem (List.mem_of_getLast? last)
  rw [← not_iff_not, not_not, ← placeWritten_eq_iff known, writtenAbove]
  by_cases same : placeWritten (before.foldl filesWith []) before.getLast? = some (placeOf (before.foldl filesWith []) r)
  · refine iff_of_true ?_ same
    rw [announced_of_same known same, List.append_nil, assemble, getLast?_assembleFrom]
    cases last : before.getLast? with
    | none => simp
    | some q => simp [givenPlace?_instruction (sound q (List.mem_of_getLast? last))]
  · refine iff_of_false ?_ same
    rw [announced, if_neg same, ← List.append_assoc, List.getLast?_concat, Option.bind_some, givenPlace?_locLine]
    simp

theorem standsBelow_writtenAbove {before : List Record} {r : Record} (sound : ∀ q ∈ before ++ [r], q.IsSound) :
    StandsBelow (writtenAbove before r) before r := by
  have soundBefore : ∀ q ∈ before, q.IsSound := fun q hq => sound q (List.mem_append_left _ hq)
  refine ⟨?_, ?_, givenPlace?_above soundBefore r⟩
  · rw [writtenAbove, List.filter_append, filter_isRecordLine_announced, List.append_nil]
    exact filter_isRecordLine_assembleFrom soundBefore _ _
  · have hr : r.IsSound := sound r (List.mem_append_right _ (List.mem_singleton_self r))
    rw [← filterMap_namedFile?_assemble sound, assemble_split, List.filterMap_append,
      List.filterMap_cons_none (namedFile?_instruction hr)]
    exact (List.append_nil _).symm

/-- A trace comes back from its text: the reader finds each record, in order, with its file, its line and what it does.
Each file is named once, under the next number, before the first record that needs it, and a location stands right
above the line of a record just if the place is another than that of the record before. -/
theorem records_recovered {lines : List (List Char)} (oneLine : ∀ line ∈ lines, '\n' ∉ line) :
    recover (toText lines) = (lines.filterMap record?).map (fun r => (some r.place, r.text)) ∧
      (listingLines (toText lines)).filterMap namedFile? = numberedFiles (lines.filterMap record?) ∧
      ∀ before r after, lines.filterMap record? = before ++ r :: after →
        ∃ above below, listingLines (toText lines) = above ++ instruction r :: below ∧ StandsBelow above before r := by
  have sound : ∀ r ∈ lines.filterMap record?, r.IsSound := by
    intro r hr
    obtain ⟨line, hline, read⟩ := List.mem_filterMap.mp hr
    exact record?_sound read (oneLine line hline)
  have unnumbered : Numbers [] [] := fun n file found => by cases found
  have unplaced : ∀ q ∈ (none : Option Record), q.file ∈ ([] : List (List Char)) := fun q hq => by cases hq
  rw [recover, listingLines_toText sound]
  refine ⟨recoverFrom_assembleFrom sound unnumbered unplaced,
    filterMap_namedFile?_assemble sound, fun before r after split => ?_⟩
  rw [split] at sound ⊢
  have first : before ++ [r] <+: before ++ r :: after := ⟨after, by simp⟩
  exact ⟨writtenAbove before r, _, assemble_split before r after,
    standsBelow_writtenAbove fun q hq => sound q (first.subset hq)⟩

/-- The third record has a new file and a place of its own, and the last one returns to the first place. -/
theorem records_recovered_twoFiles :
    recover (toText twoFiles) =
        [(some ("a.go", "3"), "movq AX, BX"), (some ("a.go", "3"), "ret"), (some ("b.data", "7"), "nop"),
          (some ("a.go", "3"), "ret")] ∧
      (listingLines (toText twoFiles)).filterMap namedFile? = [(1, "a.go"), (2, "b.data")] ∧
      ∃ above below, listingLines (toText twoFiles) = above ++ "\tnop".toList :: below ∧
        (above.getLast?.bind givenPlace?).isSome := by
  have oneLine : ∀ line ∈ twoFiles, '\n' ∉ line := by decide +kernel
  obtain ⟨recovered, named, stands⟩ := records_recovered oneLine
  have read : twoFiles.filterMap record? =
      [⟨"a.go".toList, "3".toList, "MOVQ".toList, " AX, BX".toList⟩, ⟨"a.go".toList, "3".toList, "RET".toList, []⟩] ++
        ⟨"b.data".toList, "7".toList, "NOP".toList, []⟩ :: [⟨"a.go".toList, "3".toList, "RET".toList, []⟩] := by
    decide +kernel
  obtain ⟨above, below, split, below'⟩ := stands _ _ _ read
  refine ⟨recovered.trans ?_, named.trans ?_, above, below, split, below'.location.mpr ?_⟩
  · rw [read]
    decide +kernel
  · rw [read]
    decide +kernel
  · decide +kernel

end AsmScope.Trace
