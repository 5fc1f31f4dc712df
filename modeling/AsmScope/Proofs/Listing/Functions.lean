import AsmScope.Proofs.Listing.Disassembly

/-! Whose rows are shown. By the headers a row is of the function that the nearest header above it names, and it is
shown if that function is. A header with a closing bracket in its name is not read, though. It is not shown, and the rows
below it are still taken for those of the function before, so they may be lost with it or come in with it. -/

namespace AsmScope.Listing
open AsmScope.Text

/-- The last header above is that of the function. -/
def IsUnder (name : List Char) (above : List (List Char)) : Prop :=
  ∃ head since, Latest IsHeaderLine above head since ∧ IsHeader name head

/-- The last header above that is read is that of the function. -/
def IsReadUnder (name : List Char) (above : List (List Char)) : Prop :=
  ∃ head since, Latest IsReadHeader above head since ∧ IsHeader name head

/-- The row is of a function that is shown, by a header that is not read, and the function before it is not shown. -/
def Position.IsLost (hidden : Option Pattern) (p : Position) : Prop :=
  (∃ name, IsUnder name p.above ∧ '>' ∈ name ∧ isShown hidden name = true) ∧
    ¬ ∃ former, IsReadUnder former p.above ∧ isShown hidden former = true

/-- The row is of a function that is hidden, by a header that is not read, and the function before it is shown. -/
def Position.Intrudes (hidden : Option Pattern) (p : Position) : Prop :=
  (∃ name, IsUnder name p.above ∧ '>' ∈ name ∧ isShown hidden name = false) ∧
    ∃ former, IsReadUnder former p.above ∧ isShown hidden former = true

section Under
variable {above : List (List Char)} {name name' : List Char}

theorem IsUnder.unique (h : IsUnder name above) (h' : IsUnder name' above) : name = name' := by
  obtain ⟨head, since, last, header⟩ := h
  obtain ⟨head', since', last', header'⟩ := h'
  obtain ⟨rfl, -⟩ := last.unique last'
  exact header.unique header'

theorem IsUnder.isReadUnder (h : IsUnder name above) (plain : '>' ∉ name) : IsReadUnder name above := by
  obtain ⟨head, since, last, header⟩ := h
  exact ⟨head, since, last.narrow ⟨name, header, plain⟩ fun line ⟨n, found, _⟩ => ⟨n, found⟩, header⟩

theorem IsReadUnder.unique (h : IsReadUnder name above) (h' : IsReadUnder name' above) : name = name' := by
  obtain ⟨head, since, last, header⟩ := h
  obtain ⟨head', since', last', header'⟩ := h'
  obtain ⟨rfl, -⟩ := last.unique last'
  exact header.unique header'

theorem IsReadUnder.exists_isUnder (h : IsReadUnder name above) : ∃ n, IsUnder n above := by
  obtain ⟨head, since, last, header⟩ := h
  obtain ⟨head', since', last'⟩ := exists_latest (p := IsHeaderLine) last.mem ⟨name, header⟩
  obtain ⟨-, -, ⟨n, header'⟩, -⟩ := id last'
  exact ⟨n, head', since', last', header'⟩

theorem Progress.function_after {primary : Option String} (oneLine : ∀ line ∈ above, '\n' ∉ line) :
    (Progress.initial.after primary above).function = some name ↔ IsReadUnder name above := by
  induction above using List.reverseRecOn with
  | nil => exact iff_of_false (by simp [Progress.after, Progress.initial]) not_exists_latest_nil
  | append_singleton above line ih =>
    have here : '\n' ∉ line := oneLine line (List.mem_append_right _ (List.mem_singleton_self _))
    have before := ih fun l there => oneLine l (List.mem_append_left _ there)
    rw [Progress.after_concat, IsReadUnder]
    by_cases read : IsReadHeader line
    · obtain ⟨n, header, plain⟩ := id read
      rw [exists_latest_concat_of_pos read]
      simp only [Progress.next, header.origin?, (header?_eq_some_iff here).mpr ⟨header, plain⟩, Option.some.injEq]
      constructor
      · rintro rfl
        exact header
      · exact header.unique
    · have same : ((Progress.initial.after primary above).next primary line).function =
          (Progress.initial.after primary above).function := by
        simp only [Progress.next, header?_eq_none here read]
        cases origin? line <;> rfl
      rw [exists_latest_concat_of_neg read, same, before, IsReadUnder]

end Under

section Rows
variable {view : View} {p : Position} {row : Row}

theorem Position.oneLine_of_mem {text : List Char} (there : p ∈ positions (listingLines text)) :
    '\n' ∉ p.line ∧ ∀ line ∈ p.above, '\n' ∉ line := by
  obtain ⟨below, split⟩ := mem_positions.mp there
  constructor
  · exact newline_not_mem (by rw [split]; simp)
  · intro line above
    exact newline_not_mem (by rw [split]; exact List.mem_append_left _ above)

/-- A row is shown if the function of the last header read is. -/
theorem Position.record?_eq_some_iff (oneLine : '\n' ∉ p.line) (above : ∀ line ∈ p.above, '\n' ∉ line)
    (read : row? p.line = some row) {l : Line} :
    p.record? view = some l ↔
      (∃ former, IsReadUnder former p.above ∧ isShown view.hidden former = true) ∧
        l = row.toLine (p.progress view).source := by
  have open? : (p.progress view).function.any (isShown view.hidden) = true ↔
      ∃ former, IsReadUnder former p.above ∧ isShown view.hidden former = true := by
    simp only [Option.any_eq_true, Position.progress, Progress.function_after above]
  rw [p.record?_of_row oneLine read, ← open?]
  split
  · rename_i shown
    simp [shown, eq_comm]
  · rename_i unshown
    simp [unshown]

theorem Position.record?_of_isLost (oneLine : '\n' ∉ p.line) (above : ∀ line ∈ p.above, '\n' ∉ line)
    (read : row? p.line = some row) (lost : p.IsLost view.hidden) : p.record? view = none := by
  refine Option.eq_none_iff_forall_ne_some.mpr fun l shown => lost.2 ?_
  exact ((p.record?_eq_some_iff oneLine above read).mp shown).1

theorem Position.record?_of_intrudes (oneLine : '\n' ∉ p.line) (above : ∀ line ∈ p.above, '\n' ∉ line)
    (read : row? p.line = some row) (intrudes : p.Intrudes view.hidden) :
    p.record? view = some (row.toLine (p.progress view).source) :=
  (p.record?_eq_some_iff oneLine above read).mpr ⟨intrudes.2, rfl⟩

theorem Position.straight {hidden : Option Pattern} {name : List Char} (under : IsUnder name p.above)
    (plain : '>' ∉ name) : ¬ p.IsLost hidden ∧ ¬ p.Intrudes hidden := by
  have own {other : List Char} (h : IsUnder other p.above) : '>' ∉ other := h.unique under ▸ plain
  exact ⟨fun ⟨⟨_, h, bracket, _⟩, _⟩ => own h bracket, fun ⟨⟨_, h, bracket, _⟩, _⟩ => own h bracket⟩

theorem Position.read_shown_iff {hidden : Option Pattern} {name : List Char} (under : IsUnder name p.above)
    (shown : isShown hidden name = true) :
    (∃ former, IsReadUnder former p.above ∧ isShown hidden former = true) ↔ ¬ p.IsLost hidden := by
  refine ⟨fun former lost => lost.2 former, fun kept => ?_⟩
  by_cases bracket : '>' ∈ name
  · by_contra unread
    exact kept ⟨⟨name, under, bracket, shown⟩, unread⟩
  · exact ⟨name, under.isReadUnder bracket, shown⟩

/-- The function of the last header and that of the last one read are shown or hidden alike, just if the row neither is
lost nor intrudes. -/
theorem Position.shown_alike_iff {hidden : Option Pattern} :
    ((∃ former, IsReadUnder former p.above ∧ isShown hidden former = true) ↔
        ∃ name, IsUnder name p.above ∧ isShown hidden name = true) ↔
      ¬ p.IsLost hidden ∧ ¬ p.Intrudes hidden := by
  constructor
  · intro alike
    refine ⟨fun ⟨⟨name, under, _, shown⟩, unread⟩ => unread (alike.mpr ⟨name, under, shown⟩), ?_⟩
    rintro ⟨⟨name, under, -, unshown⟩, former⟩
    obtain ⟨name', under', shown⟩ := alike.mp former
    obtain rfl := under.unique under'
    rw [shown] at unshown
    cases unshown
  · rintro ⟨kept, own⟩
    refine ⟨fun ⟨former, readUnder, shown⟩ => ?_, fun ⟨name, under, shown⟩ => (p.read_shown_iff under shown).mpr kept⟩
    obtain ⟨name, under⟩ := readUnder.exists_isUnder
    refine ⟨name, under, ?_⟩
    by_cases bracket : '>' ∈ name
    · by_contra unshown
      exact own ⟨⟨name, under, bracket, Bool.eq_false_iff.mpr unshown⟩, former, readUnder, shown⟩
    · obtain rfl := readUnder.unique (under.isReadUnder bracket)
      exact shown

end Rows

/-- Functions follow their headers, except where a header has a closing bracket in its name. A disassembly whose numerals
are not too long, and no other, is listed, and it shows the records of its lines in order. A header whose function is
shown yields its line just if its name has no such bracket, and one whose function is hidden yields none. By the headers
a row is in the output if the function of the last header above is shown; that is so just if the row neither is lost nor
intrudes. What is lost is left out, what intrudes is shown, and nothing but the record of the row is shown for it. -/
theorem functions_by_header_iff {view : View} {f : Filters} {text : String} {lines : List (List Char)}
    (cut : listingLines text.toList = lines) (filled : text ≠ "") (binary : f.binary = true)
    (several : isNotice lines = false) :
    (IsLegible f text →
        read view f text = .ok (finished view f ((positions lines).filterMap (Position.record? view)))) ∧
      (¬ IsLegible f text → ∃ e, read view f text = .error e) ∧
      ∀ p ∈ positions lines,
        (∀ name, IsHeader name p.line →
          (isShown view.hidden name = true →
            (p.record? view = some (plain (String.ofList (name ++ [':']))) ↔ '>' ∉ name) ∧
            ('>' ∈ name → p.record? view = none)) ∧
          (isShown view.hidden name = false → p.record? view = none)) ∧
        ∀ row, row? p.line = some row →
          (((∃ l, p.record? view = some l) ↔ ∃ name, IsUnder name p.above ∧ isShown view.hidden name = true) ↔
            ¬ p.IsLost view.hidden ∧ ¬ p.Intrudes view.hidden) ∧
          (p.IsLost view.hidden → p.record? view = none) ∧
          (p.Intrudes view.hidden → ∃ l, p.record? view = some l) ∧
          ∀ l, p.record? view = some l → l = row.toLine (p.progress view).source := by
  refine ⟨read_eq_finished_disassembly cut filled binary several, read_of_illegible, fun p there => ?_⟩
  obtain ⟨oneLine, above⟩ := Position.oneLine_of_mem (cut.symm ▸ there)
  refine ⟨fun name header => ?_, fun row readRow => ?_⟩
  · have unread (bracket : '>' ∈ name) : p.record? view = none := p.record?_of_unread oneLine header bracket
    refine ⟨fun shown => ⟨⟨fun own bracket => ?_, fun plain => ?_⟩, unread⟩, fun unshown => ?_⟩
    · rw [unread bracket] at own
      cases own
    · rw [p.record?_of_header oneLine header plain, if_pos shown]
    · by_cases bracket : '>' ∈ name
      · exact unread bracket
      · rw [p.record?_of_header oneLine header bracket, if_neg (by simp [unshown])]
  · have shows : (∃ l, p.record? view = some l) ↔
        ∃ former, IsReadUnder former p.above ∧ isShown view.hidden former = true := by
      simp [p.record?_eq_some_iff oneLine above readRow]
    refine ⟨by rw [shows, Position.shown_alike_iff], p.record?_of_isLost oneLine above readRow,
      fun intrudes => ⟨_, p.record?_of_intrudes oneLine above readRow intrudes⟩, fun l shown => ?_⟩
    exact ((p.record?_eq_some_iff oneLine above readRow).mp shown).2

def twoFunctions : String := "1000 <_init>:\n 1000:\tc3 \tret\n1129 <square>:\n 1129:\t89 f8 \tmov %edi,%eax\n"

def hidesInit : View := { hidden := hidingPattern "^_init$" }

def squareRow : Position := ⟨(listingLines twoFunctions.toList).take 3, " 1129:\t89 f8 \tmov %edi,%eax".toList⟩

theorem functions_by_header_iff_twoFunctions :
    (read hidesInit { binary := true } twoFunctions).map (List.map Line.text) = .ok ["square:", " mov %edi,%eax"] ∧
      ∃ l, squareRow.record? hidesInit = some l := by
  obtain ⟨listed, -, lines⟩ :=
    @functions_by_header_iff hidesInit { binary := true } twoFunctions _ rfl (by decide) rfl (by decide)
  refine ⟨by rw [listed (by decide +kernel)]; decide +kernel, ?_⟩
  have row : row? squareRow.line = some ⟨0x1129, [0x89, 0xf8], " mov %edi,%eax".toList⟩ := by decide
  have last : squareRow ∈ positions (listingLines twoFunctions.toList) := mem_positions.mpr ⟨[], by decide⟩
  obtain ⟨alike, -⟩ := (lines _ last).2 _ row
  have header : IsHeader "square".toList "1129 <square>:".toList := by decide
  have under : IsUnder "square".toList squareRow.above :=
    ⟨_, [], ⟨(listingLines twoFunctions.toList).take 2, by decide, ⟨_, header⟩, by simp⟩, header⟩
  exact (alike.mpr (Position.straight under (by decide))).mpr ⟨_, under, by decide +kernel⟩

def templateBelow : String := "1000 <main>:\n 1000:\tc3 \tret\n1010 <f<int>()>:\n 1010:\t90 \tnop\n"

/-- The header of the instance is not shown. Its row is shown below that of the other function, and it is left out where
that function is hidden. -/
theorem template_header_unread :
    IsHeader "f<int>()".toList "1010 <f<int>()>:".toList ∧
      (listingLines templateBelow.toList).drop 2 = ["1010 <f<int>()>:".toList, " 1010:\t90 \tnop".toList] ∧
      isShown (hidingPattern "^main$") "f<int>()".toList = true ∧
      (read {} { binary := true } templateBelow).map (List.map Line.text) = .ok ["main:", " ret", " nop"] ∧
      read { hidden := hidingPattern "^main$" } { binary := true } templateBelow = .ok [] :=
  ⟨by decide, by decide, by decide +kernel, by decide +kernel, by decide +kernel⟩

end AsmScope.Listing
