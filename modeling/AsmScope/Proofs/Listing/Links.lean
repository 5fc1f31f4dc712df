import AsmScope.Proofs.Listing.Disassembly

/-! Links of a listing. A link points at digits in the text of its line, between a blank and the name of the function that
they are the address of. Cutting and trimming a listing leaves it so, since the text ends in the bracket of that name. -/

namespace AsmScope.Listing
open AsmScope.Text

def Link.span (l : Link) (text : List Char) : List Char := (text.drop l.offset.toNat).take l.length.toNat

/-- A link lies inside the text, it points at digits whose value is its target, a blank stands before them, and blanks
and a name between angle brackets come after them and end the text. -/
structure Link.PointsInto (l : Link) (text : List Char) : Prop where
  inside : 0 ≤ l.offset ∧ 0 ≤ l.length ∧ l.offset + l.length ≤ text.length
  filled : l.span text ≠ []
  digits : ∀ c ∈ l.span text, isHexDigit c = true
  target : l.target = hexValue (l.span text)
  before : ∃ c, 1 ≤ l.offset ∧ text[l.offset.toNat - 1]? = some c ∧ isBlank c = true
  named : ∃ blanks name, text.drop (l.offset + l.length).toNat = blanks ++ '<' :: (name ++ ['>']) ∧ blanks ≠ [] ∧
    (∀ c ∈ blanks, isBlank c = true) ∧ name ≠ [] ∧ '>' ∉ name

def Line.HasSoundLinks (l : Line) : Prop := ∀ link ∈ l.links, link.PointsInto l.text.toList

section Reading
variable {s digits : List Char} {l : Link}

theorem target?_eq_some (oneLine : '\n' ∉ s) (read : target? s = some digits) :
    ∃ blanks name, s = digits ++ (blanks ++ '<' :: (name ++ ['>'])) ∧ digits ≠ [] ∧
      (∀ c ∈ digits, isHexDigit c = true) ∧ blanks ≠ [] ∧ (∀ c ∈ blanks, isBlank c = true) ∧ name ≠ [] ∧ '>' ∉ name := by
  obtain ⟨⟨given, r⟩, digitsRead, read⟩ := Option.bind_eq_some_iff.mp read
  obtain ⟨⟨name, r'⟩, namedRead, read⟩ := Option.bind_eq_some_iff.mp read
  obtain ⟨r'', blanksRead, nameRead⟩ := Option.bind_eq_some_iff.mp namedRead
  simp only at read
  split at read
  · rename_i ended
    obtain rfl := Option.some.inj read
    obtain ⟨rfl, filled, all, -⟩ := hexDigits?_eq_some_iff.mp digitsRead
    obtain ⟨blanks, rfl, blank, blanksAll, -⟩ := someBlank?_eq_some_iff.mp blanksRead
    obtain ⟨rfl, named, plain⟩ := angled?_eq_some_iff.mp nameRead
    obtain rfl := (isAtEnd_iff fun there => oneLine (by simp [there])).mp ended
    exact ⟨blanks, name, rfl, filled, all, blank, blanksAll, named, plain⟩
  · cases read

theorem linkFrom_cons (passed : Nat) (c : Char) (rest : List Char) :
    linkFrom passed (c :: rest) =
      match (if isBlank c then target? rest else none) with
      | some digits => some ⟨passed + 1, digits.length, hexValue digits⟩
      | none => linkFrom (passed + 1) rest := (rfl)

theorem linkFrom_eq_some {passed : Nat} (oneLine : '\n' ∉ s) (found : linkFrom passed s = some l) :
    ∃ before c rest digits, s = before ++ c :: rest ∧ isBlank c = true ∧ target? rest = some digits ∧
      l = ⟨passed + before.length + 1, digits.length, hexValue digits⟩ := by
  induction s generalizing passed with
  | nil => cases found
  | cons c rest ih =>
    rw [linkFrom_cons] at found
    cases read : (if isBlank c then target? rest else none) with
    | some digits =>
      rw [read] at found
      obtain rfl := Option.some.inj found
      obtain ⟨blank, read⟩ := Option.ite_none_right_eq_some.mp read
      exact ⟨[], c, rest, digits, rfl, blank, read, by simp⟩
    | none =>
      rw [read] at found
      obtain ⟨before, d, rest', digits, rfl, blank, read, rfl⟩ :=
        ih (fun there => oneLine (List.mem_cons_of_mem _ there)) found
      have moved : ((passed + 1 : Nat) : Int) + before.length + 1 = passed + (c :: before).length + 1 := by
        rw [List.length_cons]
        omega
      exact ⟨c :: before, d, rest', digits, rfl, blank, read, by rw [moved]⟩

theorem link?_pointsInto (oneLine : '\n' ∉ s) (found : link? s = some l) : l.PointsInto s := by
  obtain ⟨before, c, rest, digits, rfl, blank, read, rfl⟩ := linkFrom_eq_some oneLine found
  obtain ⟨blanks, name, rfl, filled, all, gap, blanksAll, named, plain⟩ :=
    target?_eq_some (fun there => oneLine (by simp [there])) read
  have start : ((0 : Nat) + before.length + 1 : Int).toNat = (before ++ [c]).length := by
    rw [List.length_append, List.length_singleton]
    omega
  have stop : ((0 : Nat) + before.length + 1 + digits.length : Int).toNat = (before ++ [c] ++ digits).length := by
    rw [List.length_append, List.length_append, List.length_singleton]
    omega
  have parts (rest : List Char) : before ++ c :: (digits ++ rest) = before ++ [c] ++ (digits ++ rest) := by simp
  have parts' (rest : List Char) : before ++ c :: (digits ++ rest) = before ++ [c] ++ digits ++ rest := by simp
  have span (rest : List Char) : Link.span ⟨(0 : Nat) + before.length + 1, digits.length, hexValue digits⟩
      (before ++ c :: (digits ++ rest)) = digits := by
    rw [Link.span, start, parts, List.drop_left, Int.toNat_natCast, List.take_left]
  refine ⟨⟨by simp only; omega, by simp, ?_⟩, by rwa [span], by rwa [span], by rw [span], ⟨c, by simp only; omega, ?_, blank⟩,
    blanks, name, ?_, gap, blanksAll, named, plain⟩
  · simp only [List.length_append, List.length_cons]
    omega
  · simp only [start, List.length_append, List.length_singleton, Nat.add_sub_cancel]
    simp
  · simp only [stop]
    rw [parts', List.drop_left]

end Reading

section Lines
variable {l : Line}

theorem hasSoundLinks_of_nil (unlinked : l.links = []) : l.HasSoundLinks := by
  intro link there
  rw [unlinked] at there
  cases there

theorem dropBlankEnd_of_visible (s : List Char) {c : Char} (visible : isBlank c = false) :
    dropBlankEnd (s ++ [c]) = s ++ [c] := by
  simp [dropBlankEnd, visible]

/-- A text that a link points into does not end in a blank. -/
theorem Link.PointsInto.dropBlankEnd {link : Link} {text : List Char} (h : link.PointsInto text) :
    Text.dropBlankEnd text = text := by
  obtain ⟨blanks, name, rest, -⟩ := h.named
  rw [← List.take_append_drop (link.offset + link.length).toNat text, rest, ← List.cons_append, ← List.append_assoc,
    ← List.append_assoc]
  exact dropBlankEnd_of_visible _ rfl

theorem Line.HasSoundLinks.trimEnd (h : l.HasSoundLinks) : l.trimEnd.HasSoundLinks := by
  intro link there
  have points := h link there
  have same : l.trimEnd.text.toList = l.text.toList := by
    rw [Line.trimEnd, String.toList_ofList, points.dropBlankEnd]
  rwa [same]

theorem oneLine_of_row {line : List Char} {row : Row} (read : row? line = some row) : '\n' ∉ row.text := by
  obtain ⟨⟨digits, r⟩, -, read⟩ := Option.bind_eq_some_iff.mp read
  simp only at read
  split at read
  · split at read
    · cases read
    · obtain rfl := Option.some.inj read
      rw [List.mem_cons, not_or]
      refine ⟨by decide, fun there => ?_⟩
      simpa using List.mem_takeWhile_imp (mem_of_mem_dropBlankEnd there)
  · cases read

theorem hasSoundLinks_toLine {line : List Char} {row : Row} (read : row? line = some row)
    (source : Option SourceLocation) : (row.toLine source).HasSoundLinks := by
  intro link there
  have found : link? row.text = some link := Option.mem_toList.mp there
  simpa [Row.toLine] using link?_pointsInto (oneLine_of_row read) found

theorem hasSoundLinks_of_record? {view : View} {p : Position} (shown : p.record? view = some l) : l.HasSoundLinks := by
  unfold Position.record? Progress.record? at shown
  split at shown
  · cases shown
  · split at shown
    · obtain rfl := Option.some.inj shown
      exact hasSoundLinks_of_nil rfl
    · cases shown
  · split at shown
    · obtain ⟨row, read, rfl⟩ := Option.map_eq_some_iff.mp shown
      exact hasSoundLinks_toLine read _
    · cases shown

/-- What holds of the lines found and of the mark of a cut, and is not changed by trimming, holds of the listing. -/
theorem forall_mem_finished {p : Line → Prop} {view : View} {f : Filters} {found : List Line}
    (all : ∀ l ∈ found, p l) (mark : p truncationMark) (trimmed : ∀ l, p l → p l.trimEnd) :
    ∀ l ∈ finished view f found, p l := by
  have cut : ∀ l ∈ limited view found, p l := by
    unfold limited cutTo firstLines
    intro l there
    split at there
    · split at there
      · rcases List.mem_append.mp there with there | there
        · split at there <;> exact all l (List.mem_of_mem_take there)
        · exact List.mem_singleton.mp there ▸ mark
      · exact all l there
    · exact all l there
  intro l there
  unfold finished at there
  split at there
  · obtain ⟨given, inside, rfl⟩ := mem_trimFrom there
    exact trimmed given (cut given inside)
  · exact cut l there

end Lines

/-- Links point at what they name, in every line of every disassembly, however it is cut and trimmed. -/
theorem links_point_at_names (view : View) {f : Filters} (binary : f.binary = true) (text : String) :
    ∀ l ∈ ofText view f text, ∀ link ∈ l.links, link.PointsInto l.text.toList := by
  intro l there
  by_cases filled : text = ""
  · rw [ofText, if_pos (by simp [filled])] at there
    cases there
  · cases several : isNotice (listingLines text.toList) with
    | true =>
      simp only [ofText, ofLines, several, if_true] at there
      rw [if_neg (by simpa using filled)] at there
      obtain ⟨line, -, rfl⟩ := List.mem_map.mp there
      exact hasSoundLinks_of_nil rfl
    | false =>
      rw [ofText_eq_finished_disassembly rfl filled binary several] at there
      refine forall_mem_finished (p := Line.HasSoundLinks) (fun l found => ?_) (hasSoundLinks_of_nil rfl)
        (fun l => Line.HasSoundLinks.trimEnd) l there
      obtain ⟨p, -, shown⟩ := List.mem_filterMap.mp found
      exact hasSoundLinks_of_record? shown

def callListing : String := "1129 <square>:\n 1129:\te8 f5 ff ff ff \tcall   1129 <square>\n 112e:\tc3 \tret\n"

def callLine : Line :=
  ⟨" call   1129 <square>", none, some 0x1129, some [0xe8, 0xf5, 0xff, 0xff, 0xff], [⟨8, 4, 0x1129⟩]⟩

theorem links_point_at_names_call :
    ofText { maxLines := some 2 } { binary := true, trim := true } callListing =
        [plain "square:", callLine, truncationMark] ∧
      Link.PointsInto ⟨8, 4, 0x1129⟩ " call   1129 <square>".toList := by
  have listed : ofText { maxLines := some 2 } { binary := true, trim := true } callListing =
      [plain "square:", callLine, truncationMark] := by decide +kernel
  have there : callLine ∈ ofText { maxLines := some 2 } { binary := true, trim := true } callListing := by
    rw [listed]
    simp
  exact ⟨listed, links_point_at_names _ rfl callListing callLine there _ (List.mem_singleton_self _)⟩

end AsmScope.Listing
