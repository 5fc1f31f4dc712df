import AsmScope.Proofs.Listing.Walk

/-! The places of shown lines. By the directives a line with an opcode stands at the place that the last location line
gave, unless a directive has ended the block since. Ends of blocks are looked for in every line, though: in operands,
in quoted texts and in comments as well. A mention of one that is no such directive takes the place away. -/

namespace AsmScope.Listing
open AsmScope.Text

def IsLocation (line : List Char) : Prop := ∃ place, location? line = some place

instance (line : List Char) : Decidable (IsLocation line) :=
  decidable_of_iff ((location? line).isSome = true) Option.isSome_iff_exists

/-- A directive that is called by a word that ends a block. -/
def isBlockEnd (line : List Char) : Bool :=
  classify line == .directive && (pointWord? (dropBlank line)).any blockEnds.contains

def NamesFile (file : Nat) (line : List Char) : Prop := ∃ name, fileEntry? line = some (file, name)

/-- The file of this number is shown under the name. The last line that names it counts; neither the standard input nor
the compiled source itself is shown. -/
structure ShowsFile (primary : Option String) (lines : List (List Char)) (file : Nat) (name : String) : Prop where
  named : ∃ line since, Latest (NamesFile file) lines line since ∧ fileEntry? line = some (file, name)
  notStdin : isStdin name.toList = false
  notPrimary : ∀ own ∈ primary, own ≠ "" → (Path.ofString name).name ≠ own

/-- What the directives say of the place below some lines: the last location line gives it, and no directive has ended
the block since. -/
def Says (primary : Option String) (lines above : List (List Char)) (place : SourceLocation) : Prop :=
  ∃ line since file number, Latest IsLocation above line since ∧ location? line = some (file, number) ∧
    place.line = number ∧ (∀ name, place.file = some name ↔ ShowsFile primary lines file name) ∧
    ∀ l ∈ since, isBlockEnd l = false

/-- A line mentions the end of a block, down from the last location line, and no directive has ended the block. -/
def Position.Strays (p : Position) : Prop :=
  ∃ line since, Latest IsLocation p.above line since ∧ (∀ l ∈ since, isBlockEnd l = false) ∧
    ∃ l ∈ line :: (since ++ [p.line]), endsBlock l = true

section Lines
variable {line : List Char}

theorem endsBlock_of_suffix (before : List Char) {s : List Char} (h : endsBlock s = true) :
    endsBlock (before ++ s) = true := by
  induction before with
  | nil => exact h
  | cons c before ih => rw [List.cons_append, endsBlock, ih, Bool.or_true]

theorem endsBlock_of_isBlockEnd (h : isBlockEnd line = true) : endsBlock line = true := by
  have called := (Bool.and_eq_true_iff.mp h).2
  have mentioned : endsBlock (dropBlank line) = true := by
    cases begins : dropBlank line with
    | nil =>
      rw [begins] at called
      cases called
    | cons c r =>
      rw [begins] at called
      rw [endsBlock, called, Bool.true_or]
  rw [← List.takeWhile_append_dropWhile (p := isBlank) (l := line)]
  exact endsBlock_of_suffix _ mentioned

theorem not_isBlockEnd_of_quiet (quiet : endsBlock line = false) : isBlockEnd line = false := by
  rw [← Bool.not_eq_true] at quiet ⊢
  exact mt endsBlock_of_isBlockEnd quiet

theorem quiet_of_blank (blank : classify line = .blank) : endsBlock line = false ∧ location? line = none := by
  have all := (classify_eq_blank_iff line).mp blank
  constructor
  · have point : '.' ∉ line := fun there => absurd (List.all_eq_true.mp all _ there) (by decide)
    have none := endsBlock_append point (t := [])
    rwa [List.append_nil] at none
  · rw [location?, locationParts?, dropBlank_eq_nil_iff.mpr all]
    rfl

theorem Standing.source_next (s : Standing) (t : Tables) (line : List Char) :
    (s.next t line).source =
      if endsBlock line then none
      else match location? line with
        | some (file, number) => some (t.locate file number)
        | none => s.source := by
  by_cases blank : classify line = .blank
  · obtain ⟨quiet, silent⟩ := quiet_of_blank blank
    rw [Standing.next, blank, quiet, silent]
    rfl
  · exact Standing.next_source s t blank

/-- A location line carries no opcode: it begins with a point, and no colon follows its first word. -/
theorem not_isLocation_of_hasOpcode (opcode : hasOpcode line = true) : ¬ IsLocation line := by
  rintro ⟨place, found⟩
  obtain ⟨parts, found, -⟩ := Option.map_eq_some_iff.mp found
  obtain ⟨r, blanks, -⟩ := Option.bind_eq_some_iff.mp found
  obtain ⟨word, called, begun⟩ := Option.bind_eq_some_iff.mp blanks
  obtain begins : dropBlank line = '.' :: 'l' :: 'o' :: 'c' :: word := by
    unfold afterLoc? at called
    split at called
    · rename_i same
      rw [same, Option.some.inj called]
    · cases called
  obtain ⟨c, rest, rfl, blank⟩ : ∃ c rest, word = c :: rest ∧ isBlank c = true := by
    cases word with
    | nil => cases begun
    | cons c rest =>
      rw [someBlank?] at begun
      split at begun
      · exact ⟨c, rest, rfl, ‹_›⟩
      · cases begun
  have beside := shuns_isLabelChar c blank
  have undefined : definition? line = none := by
    have ends : (['l', 'o', 'c'] ++ c :: rest).dropWhile isLabelChar = c :: rest :=
      dropWhile_run (List.all_eq_true.mp (by decide)) (by simpa using beside)
    have colon : c ≠ ':' := by
      rintro rfl
      cases blank
    have after : ('l' :: 'o' :: 'c' :: c :: rest).dropWhile isLabelChar = c :: rest := ends
    simp [definition?, begins, after, colon]
  rw [hasOpcode_of_undefined undefined (by rw [begins]; rfl)] at opcode
  cases opcode

theorem visible_of_hasOpcode (opcode : hasOpcode line = true) : classify line ≠ .blank := by
  intro blank
  have none := dropBlank_eq_nil_iff.mpr ((classify_eq_blank_iff line).mp blank)
  rw [hasOpcode_of_undefined (by rw [definition?, none]) (by rw [none]; rfl)] at opcode
  cases opcode

end Lines

section Places
variable {primary : Option String} {f : Filters} {lines above : List (List Char)} {line : List Char}

theorem lookup_fileTable {file : Nat} {name : String} :
    (fileTable lines).lookup file = some name ↔
      ∃ line since, Latest (NamesFile file) lines line since ∧ fileEntry? line = some (file, name) := by
  induction lines using List.reverseRecOn with
  | nil => exact iff_of_false (by simp [fileTable]) not_exists_latest_nil
  | append_singleton lines line ih =>
    have table : fileTable (lines ++ [line]) = ( fileEntry? line).toList ++ fileTable lines := by
      cases entry : fileEntry? line <;> simp [fileTable, entry]
    rw [table]
    by_cases names : NamesFile file line
    · obtain ⟨given, entry⟩ := id names
      rw [exists_latest_concat_of_pos names, entry, Option.toList_some, List.singleton_append, List.lookup_cons_self]
      simp
    · have skipped : (( fileEntry? line).toList ++ fileTable lines).lookup file = (fileTable lines).lookup file := by
        cases entry : fileEntry? line with
        | none => rfl
        | some numbered =>
          have other : (file == numbered.1) = false := by
            rw [beq_eq_false_iff_ne]
            rintro rfl
            exact names ⟨numbered.2, entry⟩
          rw [Option.toList_some, List.singleton_append, List.lookup_cons, other]
      rw [skipped, ih, exists_latest_concat_of_neg names]

theorem locate_file_eq_some_iff {file number : Nat} {name : String} :
    ((tablesOf primary f lines).locate file number).file = some name ↔ ShowsFile primary lines file name := by
  have shown : ((tablesOf primary f lines).locate file number).file =
      ((fileTable lines).lookup file).bind (sourceFile primary) := rfl
  rw [shown, Option.bind_eq_some_iff]
  constructor
  · rintro ⟨given, found, kept⟩
    unfold sourceFile at kept
    split_ifs at kept with stdin own
    obtain rfl := Option.some.inj kept
    refine ⟨lookup_fileTable.mp found, by simpa using stdin, fun file here filled same => own ?_⟩
    rw [Option.mem_def.mp here]
    simp [filled, same]
  · rintro ⟨named, notStdin, notPrimary⟩
    refine ⟨name, lookup_fileTable.mpr named, ?_⟩
    have other : ¬ (primary.any fun file => !file.isEmpty && (Path.ofString name).name == file) = true := by
      cases primary with
      | none => simp
      | some own => simpa using notPrimary own rfl
    rw [sourceFile, if_neg (by simp [notStdin]), if_neg other]

theorem eq_locate_iff {file number : Nat} {place : SourceLocation} :
    place = (tablesOf primary f lines).locate file number ↔
      place.line = number ∧ ∀ name, place.file = some name ↔ ShowsFile primary lines file name := by
  constructor
  · rintro rfl
    exact ⟨rfl, fun name => locate_file_eq_some_iff⟩
  · rintro ⟨same, shows⟩
    have files : place.file = ((tablesOf primary f lines).locate file number).file :=
      Option.ext fun name => (shows name).trans locate_file_eq_some_iff.symm
    cases place
    exact congrArg₂ SourceLocation.mk same files

theorem Standing.source_after (t : Tables) {place : SourceLocation} :
    (Standing.initial.after t above).source = some place ↔
      ∃ line since, Latest IsLocation above line since ∧
        (∃ file number, location? line = some (file, number) ∧ place = t.locate file number) ∧
        ∀ l ∈ line :: since, endsBlock l = false := by
  induction above using List.reverseRecOn with
  | nil => exact iff_of_false (by simp [Standing.after, Standing.initial]) not_exists_latest_nil
  | append_singleton above line ih =>
    rw [Standing.after_concat, Standing.source_next]
    by_cases given : IsLocation line
    · obtain ⟨⟨file, number⟩, found⟩ := id given
      rw [exists_latest_concat_of_pos given, found]
      cases ends : endsBlock line with
      | true => simp [ends]
      | false =>
        constructor
        · intro same
          exact ⟨⟨file, number, rfl, (Option.some.inj same).symm⟩, by simpa using ends⟩
        · rintro ⟨⟨file', number', same, rfl⟩, -⟩
          cases same
          rfl
    · have silent : location? line = none := Option.eq_none_iff_forall_ne_some.mpr fun place found => given ⟨place, found⟩
      rw [exists_latest_concat_of_neg given, silent]
      cases ends : endsBlock line with
      | true => simp [ends]
      | false =>
        simp only [Bool.false_eq_true, if_false, ih]
        simp [ends, or_imp, forall_and]

end Places

section Shown
variable {t : Tables} {p : Position}

theorem Position.source_shown : (p.shown t).source = if hasOpcode p.line then (p.standing t).source else none := by
  unfold Position.shown shownLine
  split
  · rename_i blank
    cases opcode : hasOpcode p.line with
    | true => exact absurd blank (visible_of_hasOpcode opcode)
    | false => rfl
  · rfl

/-- A line with an opcode is shown at the place of the last location line if no line, from that one down to this one,
mentions the end of a block. -/
theorem Position.source_eq_some_iff (opcode : hasOpcode p.line = true) {place : SourceLocation} :
    (p.shown t).source = some place ↔
      ∃ line since, Latest IsLocation p.above line since ∧
        (∃ file number, location? line = some (file, number) ∧ place = t.locate file number) ∧
        ∀ l ∈ line :: (since ++ [p.line]), endsBlock l = false := by
  rw [p.source_shown, if_pos opcode, Position.standing, Standing.source_after, Position.reading,
    exists_latest_concat_of_neg (not_isLocation_of_hasOpcode opcode)]

theorem Position.source_of_strays (opcode : hasOpcode p.line = true) (strays : p.Strays) : (p.shown t).source = none := by
  obtain ⟨line, since, last, -, l, there, mentions⟩ := strays
  rw [Option.eq_none_iff_forall_ne_some]
  intro place shown
  obtain ⟨line', since', last', -, quiet⟩ := (p.source_eq_some_iff opcode).mp shown
  obtain ⟨rfl, rfl⟩ := last.unique last'
  rw [quiet l there] at mentions
  cases mentions

end Shown

section Rule
variable {primary : Option String} {f : Filters} {lines : List (List Char)} {p : Position}

theorem says_iff {above : List (List Char)} {place : SourceLocation} :
    Says primary lines above place ↔
      ∃ line since, Latest IsLocation above line since ∧
        (∃ file number, location? line = some (file, number) ∧
          place = (tablesOf primary f lines).locate file number) ∧ ∀ l ∈ since, isBlockEnd l = false := by
  simp only [eq_locate_iff, Says]
  constructor
  · rintro ⟨line, since, file, number, last, found, same, shows, quiet⟩
    exact ⟨line, since, last, ⟨file, number, found, same, shows⟩, quiet⟩
  · rintro ⟨line, since, last, ⟨file, number, found, same, shows⟩, quiet⟩
    exact ⟨line, since, file, number, last, found, same, shows, quiet⟩

theorem Position.source_follows_iff (opcode : hasOpcode p.line = true) :
    (∀ place, (p.shown (tablesOf primary f lines)).source = some place ↔ Says primary lines p.above place) ↔
      ¬ p.Strays := by
  constructor
  · rintro follows ⟨line, since, last, quiet, mention⟩
    obtain ⟨⟨file, number⟩, found⟩ : IsLocation line := by
      obtain ⟨-, -, given, -⟩ := last
      exact given
    have said : Says primary lines p.above ((tablesOf primary f lines).locate file number) :=
      says_iff.mpr ⟨line, since, last, ⟨file, number, found, rfl⟩, quiet⟩
    have shown := (follows _).mpr said
    rw [p.source_of_strays opcode ⟨line, since, last, quiet, mention⟩] at shown
    cases shown
  · intro straight place
    rw [p.source_eq_some_iff opcode, says_iff]
    constructor
    · rintro ⟨line, since, last, given, quiet⟩
      refine ⟨line, since, last, given, fun l there => not_isBlockEnd_of_quiet (quiet l ?_)⟩
      exact List.mem_cons_of_mem _ (List.mem_append_left _ there)
    · rintro ⟨line, since, last, given, quiet⟩
      refine ⟨line, since, last, given, fun l there => ?_⟩
      by_contra mentions
      exact straight ⟨line, since, last, quiet, l, there, Bool.not_eq_false _ ▸ mentions⟩

end Rule

/-- Places follow the directives, except where the end of a block is mentioned by something else. The listing of a text
whose numerals are not too long, and no other text has one, shows the kept lines in order, and those without an opcode
have no place. A line with an opcode has the place that the directives
above it say just if no mention strays in, be it in operands, in a quoted text or in a comment; otherwise it has none. -/
theorem place_by_directives_iff {view : View} {f : Filters} {text : String} {lines : List (List Char)}
    (cut : listingLines text.toList = lines) (filled : text ≠ "") (textual : f.binary = false)
    (several : isNotice lines = false) :
    (IsLegible f text → read view f text = .ok
      (finished view f (((positions lines).filter (Position.isKept f (tablesOf view.primary f lines))).map
        (Position.shown (tablesOf view.primary f lines))))) ∧
      (¬ IsLegible f text → ∃ e, read view f text = .error e) ∧
      ∀ p ∈ positions lines,
        (hasOpcode p.line = false → (p.shown (tablesOf view.primary f lines)).source = none) ∧
        (hasOpcode p.line = true →
          ((∀ place, (p.shown (tablesOf view.primary f lines)).source = some place ↔
            Says view.primary lines p.above place) ↔ ¬ p.Strays) ∧
          (p.Strays → (p.shown (tablesOf view.primary f lines)).source = none)) := by
  refine ⟨read_eq_finished cut filled textual several, read_of_illegible, fun p _ => ⟨fun plain => ?_, fun opcode => ?_⟩⟩
  · rw [p.source_shown, if_neg (by simp [plain])]
  · exact ⟨p.source_follows_iff opcode, p.source_of_strays opcode⟩

def endedBlock : String := "\t.file 1 \"a.c\"\n\t.loc 1 3\n\tnop\n\t.text\n\tret\n"

theorem place_by_directives_iff_endedBlock :
    (read {} {} endedBlock).map (List.map Line.source) = .ok [none, none, some ⟨3, some "a.c"⟩, none, none] ∧
      ∀ place, none = some place ↔
        Says none (listingLines endedBlock.toList) ((listingLines endedBlock.toList).take 4) place := by
  obtain ⟨listed, -, places⟩ := @place_by_directives_iff {} {} endedBlock _ rfl (by decide) rfl (by decide)
  refine ⟨by rw [listed (by decide)]; decide +kernel, ?_⟩
  have last : (⟨(listingLines endedBlock.toList).take 4, "\tret".toList⟩ : Position) ∈
      positions (listingLines endedBlock.toList) := mem_positions.mpr ⟨[], by decide⟩
  obtain ⟨follows, -⟩ := (places _ last).2 (by decide)
  have straight : ¬ Position.Strays ⟨(listingLines endedBlock.toList).take 4, "\tret".toList⟩ := by
    rintro ⟨line, since, latest, quiet, -⟩
    have given : Latest IsLocation ((listingLines endedBlock.toList).take 4) "\t.loc 1 3".toList
        ["\tnop".toList, "\t.text".toList] :=
      ⟨["\t.file 1 \"a.c\"".toList], by decide, by decide, by decide⟩
    obtain ⟨-, rfl⟩ := latest.unique given
    exact absurd (quiet "\t.text".toList (by decide)) (by decide)
  exact follows.mpr straight

def strayOperand : String := "\t.file 1 \"a.c\"\n\t.loc 1 3\n\tmovq x.data(%rip), %rax\n\tret\n"

/-- No directive ends a block, and yet the line and the one below it are shown without the place that the directives say
of both. -/
theorem place_lost_to_operand :
    (∀ line ∈ listingLines strayOperand.toList, isBlockEnd line = false) ∧
      Says none (listingLines strayOperand.toList) ((listingLines strayOperand.toList).take 2) ⟨3, some "a.c"⟩ ∧
      Says none (listingLines strayOperand.toList) ((listingLines strayOperand.toList).take 3) ⟨3, some "a.c"⟩ ∧
      (read {} {} strayOperand).map (List.map fun l => (l.text, l.source)) =
        .ok [("        .file 1 \"a.c\"", none), ("        .loc 1 3", none),
          ("        movq x.data(%rip), %rax", none), ("        ret", none)] := by
  have said {above since : List (List Char)} (last : Latest IsLocation above "\t.loc 1 3".toList since)
      (quiet : ∀ l ∈ since, isBlockEnd l = false) :
      Says none (listingLines strayOperand.toList) above ⟨3, some "a.c"⟩ :=
    (@says_iff none {} _ _ _).mpr ⟨_, since, last, ⟨1, 3, by decide, by decide⟩, quiet⟩
  have here : Latest IsLocation ((listingLines strayOperand.toList).take 2) "\t.loc 1 3".toList [] :=
    ⟨["\t.file 1 \"a.c\"".toList], by decide, by decide, by decide⟩
  have below : Latest IsLocation ((listingLines strayOperand.toList).take 3) "\t.loc 1 3".toList
      ["\tmovq x.data(%rip), %rax".toList] :=
    ⟨["\t.file 1 \"a.c\"".toList], by decide, by decide, by decide⟩
  exact ⟨by decide, said here (by decide), said below (by decide), by decide⟩

end AsmScope.Listing
