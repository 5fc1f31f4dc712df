import AsmScope.Proofs.Listing.Places
import AsmScope.Proofs.Listing.Reading
import AsmScope.Proofs.Listing.Trimming
import AsmScope.Proofs.Text.Lines

/-! What the filters do to a listing of assembler text. They drop lines and change none, more of them drop more, and
without any of them each line has its record. An instruction is shown whatever they are; what is shown has the kind
it was kept for. -/

namespace AsmScope.Listing
open AsmScope.Text

def layout (f : Filters) (line : List Char) : List Char :=
  if f.trim then dropBlankEnd (expandTabs line) else expandTabs line

def isInstruction (line : List Char) : Bool := classify line == .instruction

/-- A question with one answer for a line in every layout, and no for a blank one. -/
structure Lasting (p : List Char → Bool) : Prop where
  relaid : ∀ {line shown : List Char}, Relaid line shown → '\n' ∉ line → p shown = p line
  visible : ∀ {line : List Char}, p line = true → ¬ line.all isBlank = true

theorem isInstruction_of_relaid {line shown : List Char} (h : Relaid line shown) (oneLine : '\n' ∉ line) :
    isInstruction shown = isInstruction line := by
  rw [isInstruction, isInstruction, h.classify oneLine]

theorem lasting_isInstruction : Lasting isInstruction where
  relaid := isInstruction_of_relaid
  visible h blank := by
    rw [isInstruction, (classify_eq_blank_iff _).mpr blank] at h
    cases h

def Line.letters (l : Line) : List Char := l.text.toList

theorem Line.letters_trimEnd (l : Line) : l.trimEnd.letters = dropBlankEnd l.letters := l.toList_text_trimEnd

theorem letters_shownLine (s : Standing) (line : List Char) :
    (shownLine s (classify line) line).letters = if line.all isBlank then [] else expandTabs line := by
  rw [Line.letters, shownLine_text]
  split
  · rfl
  · exact String.toList_ofList

theorem relaid_shownLine (s : Standing) (line : List Char) :
    Relaid line (shownLine s (classify line) line).letters := by
  rw [letters_shownLine]
  split
  · rename_i blank
    exact .gone blank
  · exact Relaid.expandTabs line

section Walk
variable {f : Filters} {t : Tables} {s : Standing} {lines : List (List Char)}

theorem hasPlainGaps_textualFrom : HasPlainGaps (textualFrom f t s lines) := by
  intro l there empty
  obtain ⟨line, -, here, -, rfl⟩ := mem_textualFrom there
  have blank : line.all isBlank = true := by
    rw [Line.isEmpty_text_trimEnd] at empty
    exact (relaid_shownLine here line).all_isBlank.symm.trans empty
  rw [(classify_eq_blank_iff line).mpr blank]
  rfl

/-- Lines of which the filters make no difference are shown all or not at all, in order. -/
theorem filter_textualFrom {p : List Char → Bool} (lasting : Lasting p) {shows : Bool}
    (kept : ∀ here line, p line = true → isKept f t here (classify line) line = shows)
    (oneLine : ∀ line ∈ lines, '\n' ∉ line) :
    ((textualFrom f t s lines).map Line.letters).filter p =
      if shows then (lines.filter p).map expandTabs else [] := by
  induction lines generalizing s with
  | nil => simp [textualFrom]
  | cons line rest ih =>
    have same := lasting.relaid (relaid_shownLine (s.next t line) line) (oneLine line (List.mem_cons_self ..))
    have later := @ih (s.next t line) fun line hline => oneLine line (List.mem_cons_of_mem _ hline)
    rw [textualFrom_cons, List.map_append, List.filter_append, later]
    cases asked : p line with
    | true =>
      have shown := letters_shownLine (s.next t line) line
      rw [if_neg (lasting.visible asked)] at shown
      rw [shown] at same
      rw [kept _ line asked]
      cases shows <;> simp [shown, same, asked]
    | false =>
      have out : ((if isKept f t (s.next t line) (classify line) line
            then [shownLine (s.next t line) (classify line) line] else []).map Line.letters).filter p = [] := by
        split
        · simp [same, asked]
        · rfl
      rw [out, List.nil_append, List.filter_cons_of_neg (by simp [asked])]

end Walk

section Listed
variable {view : View} {f : Filters} {text : String} (unlimited : view.maxLines = none) (textual : f.binary = false)
  (several : isNotice (listingLines text.toList) = false)
include unlimited textual several

theorem ofText_textual :
    ofText view f text =
      if f.trim then trimLines (Listing.textual view.primary f (listingLines text.toList))
      else Listing.textual view.primary f (listingLines text.toList) := by
  have whole : ofLines view f (listingLines text.toList) =
      if f.trim then trimLines (Listing.textual view.primary f (listingLines text.toList))
      else Listing.textual view.primary f (listingLines text.toList) := by
    simp [ofLines, several, limited, unlimited, annotated, textual]
  unfold ofText
  split
  · rename_i empty
    obtain rfl := String.isEmpty_iff.mp empty
    split <;> rfl
  · exact whole

theorem mem_ofText {l : Line} (h : l ∈ ofText view f text) :
    ∃ line ∈ listingLines text.toList, ∃ t here, isKept f t here (classify line) line = true ∧
      Relaid line l.letters := by
  rw [ofText_textual unlimited textual several] at h
  split at h
  · obtain ⟨given, there, rfl⟩ := mem_trimFrom h
    obtain ⟨line, hline, here, kept, rfl⟩ := mem_textualFrom there
    exact ⟨line, hline, _, here, kept, Line.letters_trimEnd _ ▸ (relaid_shownLine here line).dropBlankEnd⟩
  · obtain ⟨line, hline, here, kept, rfl⟩ := mem_textualFrom h
    exact ⟨line, hline, _, here, kept, relaid_shownLine here line⟩

theorem filter_ofText {p : List Char → Bool} (lasting : Lasting p) {shows : Bool}
    (kept : ∀ here line, p line = true →
      isKept f (tablesOf view.primary f (listingLines text.toList)) here (classify line) line = shows) :
    ((ofText view f text).map Line.letters).filter p =
      if shows then ((listingLines text.toList).filter p).map (layout f) else [] := by
  have oneLine : ∀ line ∈ listingLines text.toList, '\n' ∉ line := fun line => newline_not_mem
  have walk : ((Listing.textual view.primary f (listingLines text.toList)).map Line.letters).filter p = _ :=
    filter_textualFrom lasting kept oneLine
  rw [ofText_textual unlimited textual several]
  cases trim : f.trim with
  | false =>
    have laidOut : layout f = expandTabs := funext fun line => by simp [layout, trim]
    rw [if_neg (by decide), walk, laidOut]
  | true =>
    set lines := Listing.textual view.primary f (listingLines text.toList) with shown
    have filled (l : Line) (h : p l.letters = true) : l.text.isEmpty = false := by
      by_contra empty
      have none : l.letters = [] :=
        String.toList_eq_nil_iff.mpr (String.isEmpty_iff.mp (Bool.not_eq_false _ ▸ empty))
      exact lasting.visible h (by rw [none]; rfl)
    have same : ∀ l ∈ lines, p l.trimEnd.letters = p l.letters := by
      intro l there
      obtain ⟨line, hline, here, -, rfl⟩ := mem_textualFrom there
      rw [Line.letters_trimEnd, lasting.relaid (relaid_shownLine here line).dropBlankEnd (oneLine line hline),
        lasting.relaid (relaid_shownLine here line) (oneLine line hline)]
    calc ((trimLines lines).map Line.letters).filter p
        = ((trimLines lines).filter fun l => p l.letters).map Line.letters := List.filter_map
      _ = ((lines.map Line.trimEnd).filter fun l => p l.letters).map Line.letters := by
          rw [trimLines, filter_trimFrom filled]
      _ = (lines.filter fun l => p l.letters).map fun l => l.trimEnd.letters := by
          rw [List.filter_map, List.map_map]
          exact congrArg (List.map _) (List.filter_congr same)
      _ = ((lines.map Line.letters).filter p).map dropBlankEnd := by
          rw [List.filter_map, List.map_map]
          exact List.map_congr_left fun l _ => l.letters_trimEnd
      _ = if shows then ((listingLines text.toList).filter p).map (layout f) else [] := by
          rw [walk]
          cases shows with
          | false => rfl
          | true =>
            rw [if_pos rfl, if_pos rfl, List.map_map]
            exact List.map_congr_left fun line _ => by simp [layout, trim]

theorem instructions_ofText :
    ((ofText view f text).map Line.letters).filter isInstruction =
      ((listingLines text.toList).filter isInstruction).map (layout f) := by
  have kept (here : Standing) (line : List Char) (instruction : isInstruction line = true) :
      isKept f (tablesOf view.primary f (listingLines text.toList)) here (classify line) line = true := by
    rw [beq_iff_eq.mp instruction]
    rfl
  exact filter_ofText unlimited textual several lasting_isInstruction kept

end Listed

theorem ofText_notice (view : View) (f g : Filters) {text : String}
    (notice : isNotice (listingLines text.toList) = true) : ofText view f text = ofText view g text := by
  unfold ofText
  split
  · rfl
  · simp [ofLines, notice]

theorem ofText_sublist {view : View} (unlimited : view.maxLines = none) {f g : Filters} (textual : f.binary = false)
    (textual' : g.binary = false) (trim : g.trim = f.trim) (more : HidesMore f g) {text : String} :
    (ofText view g text).Sublist (ofText view f text) := by
  cases several : isNotice (listingLines text.toList) with
  | true => rw [ofText_notice view g f several]
  | false =>
    have fewer := textual_sublist more view.primary (listingLines text.toList)
    rw [ofText_textual unlimited textual several, ofText_textual unlimited textual' several, trim]
    split
    · exact trimLines_sublist fewer hasPlainGaps_textualFrom
    · exact fewer

/-- Filters only drop lines. Those that hide more show some of the lines that those that hide less show, in the same
order, with the same texts and places. Filters that hide nothing show every line of the text: a blank one as empty,
and any other with its tabs expanded. A text with a numeral that is too long is not listed at all, whatever is
hidden. -/
theorem filters_only_drop {view : View} (unlimited : view.maxLines = none) (text : String) :
    (∀ f g : Filters, f.binary = false → g.binary = false → g.trim = f.trim → HidesMore f g →
      (IsLegible f text → ∃ more fewer, read view f text = .ok more ∧ read view g text = .ok fewer ∧
        fewer.Sublist more) ∧
      (¬ IsLegible f text → ∃ e, read view f text = .error e ∧ read view g text = .error e)) ∧
    ∀ f : Filters, f.binary = false → f.directives = false → f.labels = false → f.commentOnly = false →
      f.trim = false → isNotice (listingLines text.toList) = false →
        (IsLegible f text → ∃ listed, read view f text = .ok listed ∧ listed.map Line.text =
          (listingLines text.toList).map fun line =>
            if line.all isBlank then "" else String.ofList (expandTabs line)) ∧
        (¬ IsLegible f text → ∃ e, read view f text = .error e) := by
  refine ⟨fun f g textual textual' trim more => ?_, fun f textual directives labels comments trim several => ?_⟩
  · have kind : f.binary = g.binary := textual.trans textual'.symm
    refine ⟨fun legible => ?_, fun illegible => ?_⟩
    · exact ⟨_, _, read_of_legible legible, read_of_legible ((isLegible_congr kind).mp legible),
        ofText_sublist unlimited textual textual' trim more⟩
    · obtain ⟨e, fails⟩ := read_of_illegible illegible
      exact ⟨e, fails, read_error_congr kind fails⟩
  · apply read_of
    rw [ofText_textual unlimited textual several, if_neg (by simp [trim])]
    exact textualFrom_texts_of_off directives labels comments _ _ _

def unusedData : String := ".L0:\n\t.long\t1\n\n\n\tret\t# done\n"

theorem filters_only_drop_unusedData :
    (∃ more fewer, read {} { labels := true, trim := true } unusedData = .ok more ∧
      read {} { directives := true, labels := true, trim := true } unusedData = .ok fewer ∧ fewer.Sublist more) ∧
    ∃ listed, read {} {} unusedData = .ok listed ∧
      listed.map Line.text = [".L0:", "        .long   1", "", "", "        ret     # done"] := by
  have unlimited : ({} : View).maxLines = none := rfl
  obtain ⟨drops, shows⟩ := filters_only_drop unlimited unusedData
  have fewer := drops { labels := true, trim := true } { directives := true, labels := true, trim := true } rfl rfl rfl
    ⟨by decide, by decide, by decide⟩
  refine ⟨fewer.1 (by decide), ?_⟩
  obtain ⟨listed, whole, texts⟩ := (shows {} rfl rfl rfl rfl rfl (by decide)).1 (by decide)
  exact ⟨listed, whole, texts.trans (by decide)⟩

section Located
variable {number : List Char}

def locationOf (number : List Char) : List Char := '\t' :: '.' :: ("loc".toList ++ ' ' :: (['1'] ++ ' ' :: number))

def located (number : List Char) : String := String.ofList (List.intercalate ['\n'] ["\tret".toList, locationOf number])

variable (digits : ∀ c ∈ number, isAsciiDigit c = true)
include digits

theorem listingLines_located : listingLines (located number).toList = ["\tret".toList, locationOf number] := by
  have absent {c : Char} (other : isAsciiDigit c = false) (apart : c ∉ "\t.loc 1 ".toList) : c ∉ locationOf number := by
    have none : c ∉ number := fun there => absurd (digits c there) (by rw [other]; decide)
    simpa [locationOf, none] using apart
  rw [located, String.toList_ofList]
  refine listingLines_intercalate ?_ ?_ ?_
  · simpa using absent (c := '\n') (by decide) (by decide)
  · simp [locationOf]
  · simpa using fun last => absent (c := '\r') (by decide) (by decide) (List.mem_of_getLast? last)

variable (filled : number ≠ [])
include filled

theorem numerals_located : numerals {} (listingLines (located number).toList) = [['1'], number] := by
  have one : ∀ c ∈ ['1'], isAsciiDigit c = true := List.all_eq_true.mp (by decide)
  have parts : locationParts? (locationOf number) = some (['1'], number) :=
    locationParts?_run (by decide) one filled digits
  have none : locationParts? "\tret".toList = none := rfl
  have unnamed : ["\tret".toList, locationOf number].filterMap fileParts? = [] := rfl
  have several : isNotice ["\tret".toList, locationOf number] = false := rfl
  rw [listingLines_located digits, numerals, several, if_neg Bool.false_ne_true, if_neg Bool.false_ne_true,
    textualNumerals, unnamed, List.filterMap_cons_none none, List.filterMap_cons_some parts]
  rfl

theorem read_located (long : maxDigits < number.length) : read {} {} (located number) = .error ⟨number.length⟩ :=
  read_eq_error_iff.mpr ⟨[['1']], number, [], numerals_located digits filled, by decide, long, rfl⟩

end Located

theorem ones {n : Nat} : ∀ c ∈ List.replicate n '1', isAsciiDigit c = true := fun c there => by
  rw [List.eq_of_mem_replicate there]
  decide

theorem read_ones {n : Nat} (long : maxDigits < n) :
    read {} {} (located (List.replicate n '1')) = .error ⟨n⟩ := by
  have length : (List.replicate n '1').length = n := List.length_replicate
  have filled : List.replicate n '1' ≠ [] := List.ne_nil_of_length_pos (length.symm ▸ Nat.zero_lt_of_lt long)
  rw [read_located ones filled (length.symm ▸ long), length]

/-- The line has a number of more digits than are read. -/
def longLocation : String := located (List.replicate (maxDigits + 1) '1')

theorem read_longLocation : read {} {} longLocation = .error ⟨maxDigits + 1⟩ := read_ones (Nat.lt_succ_self maxDigits)

/-- Nothing of such a text is listed, though nothing is hidden. -/
theorem lines_lost_longLocation :
    isNotice (listingLines longLocation.toList) = false ∧ (listingLines longLocation.toList).length = 2 ∧
      ∀ listed, read {} {} longLocation ≠ .ok listed := by
  rw [read_longLocation, longLocation, listingLines_located ones]
  exact ⟨rfl, rfl, fun _ => nofun⟩

/-- Instructions are never lost where the text is listed. The instructions of a listing are those of the text, in
order, each with its tabs expanded and trimmed if that is asked for. Where directives or comments are hidden nothing
shown is one. -/
theorem instructions_kept {view : View} (unlimited : view.maxLines = none) {f : Filters} (textual : f.binary = false)
    {text : String} (several : isNotice (listingLines text.toList) = false) :
    (IsLegible f text → ∃ listed, read view f text = .ok listed ∧
      (listed.map Line.letters).filter isInstruction =
        ((listingLines text.toList).filter isInstruction).map (layout f) ∧
      (f.directives = true → ∀ l ∈ listed, classify l.letters ≠ .directive) ∧
      (f.commentOnly = true → ∀ l ∈ listed, classify l.letters ≠ .comment)) ∧
    (¬ IsLegible f text → ∃ e, read view f text = .error e) := by
  apply read_of
  refine ⟨instructions_ofText unlimited textual several, fun hidden l there => ?_, fun hidden l there => ?_⟩
  · obtain ⟨line, hline, t, here, kept, relaid⟩ := mem_ofText unlimited textual several there
    rw [relaid.classify (newline_not_mem hline)]
    intro directive
    simp [directive, isKept, hidden] at kept
  · obtain ⟨line, hline, t, here, kept, relaid⟩ := mem_ofText unlimited textual several there
    rw [relaid.classify (newline_not_mem hline)]
    intro comment
    simp [comment, isKept, hidden] at kept

theorem instructions_kept_unusedData :
    ∃ listed, read {} { directives := true, commentOnly := true, trim := true } unusedData = .ok listed ∧
      (listed.map Line.letters).filter isInstruction = ["        ret     # done".toList] ∧
      ∀ l ∈ listed, classify l.letters ≠ .directive ∧ classify l.letters ≠ .comment := by
  have unlimited : ({} : View).maxLines = none := rfl
  have textual : ({ directives := true, commentOnly := true, trim := true } : Filters).binary = false := rfl
  have several : isNotice (listingLines unusedData.toList) = false := by decide
  obtain ⟨listed, whole, kept, directives, comments⟩ := (instructions_kept unlimited textual several).1 (by decide)
  exact ⟨listed, whole, kept.trans (by decide), fun l there => ⟨directives rfl l there, comments rfl l there⟩⟩

/-- An instruction is lost with the location below it. -/
theorem instruction_lost_longLocation :
    isNotice (listingLines longLocation.toList) = false ∧
      "\tret".toList ∈ (listingLines longLocation.toList).filter isInstruction ∧
      ∀ listed, read {} {} longLocation ≠ .ok listed := by
  rw [read_longLocation, longLocation, listingLines_located ones]
  exact ⟨rfl, List.mem_filter.mpr ⟨List.mem_cons_self .., by decide⟩, fun _ => nofun⟩

end AsmScope.Listing
