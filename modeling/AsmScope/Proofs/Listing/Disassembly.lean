import AsmScope.Proofs.Listing.Walk
import AsmScope.Proofs.Text.Hexadecimal

/-! The walk over a disassembly, told line by line. A header is told by its shape: the digits of an address, blanks, a
name between angle brackets, and a colon. Its name may have brackets of its own, and such a header is not read. What a
line is shown as depends on the lines above it by the place they give and the function they leave open. -/

namespace AsmScope.Listing
open AsmScope.Text

section Pieces
variable {s rest digits name : List Char}

theorem hexDigits?_eq_some_iff :
    hexDigits? s = some (digits, rest) ↔
      s = digits ++ rest ∧ digits ≠ [] ∧ (∀ c ∈ digits, isHexDigit c = true) ∧ ∀ c ∈ rest.head?, isHexDigit c = false := by
  constructor
  · intro read
    simp only [hexDigits?] at read
    split at read
    · cases read
    · rename_i filled
      obtain ⟨rfl, rfl⟩ := Prod.mk.inj (Option.some.inj read)
      refine ⟨(List.takeWhile_append_dropWhile ..).symm, by simpa using filled, fun c => List.mem_takeWhile_imp, ?_⟩
      intro c first
      have ends := List.head?_dropWhile_not isHexDigit s
      rw [Option.mem_def.mp first] at ends
      exact ends
  · rintro ⟨rfl, filled, all, ends⟩
    simp only [hexDigits?, takeWhile_run all ends, dropWhile_run all ends]
    rw [if_neg (by simpa using filled)]

theorem angled?_eq_some_iff :
    angled? s = some (name, rest) ↔ s = '<' :: (name ++ '>' :: rest) ∧ name ≠ [] ∧ '>' ∉ name := by
  constructor
  · intro read
    unfold angled? at read
    split at read
    · rename_i r
      simp only at read
      split at read
      · rename_i r' closed
        split at read
        · cases read
        · rename_i filled
          obtain ⟨rfl, rfl⟩ := Prod.mk.inj (Option.some.inj read)
          refine ⟨?_, by simpa using filled, fun there => ?_⟩
          · rw [← closed, List.takeWhile_append_dropWhile]
          · simpa using List.mem_takeWhile_imp there
      · cases read
    · cases read
  · rintro ⟨rfl, filled, plain⟩
    have all : ∀ c ∈ name, (c != '>') = true := fun c there => bne_iff_ne.mpr fun same => plain (same ▸ there)
    have ends : ∀ c ∈ ('>' :: rest).head?, (c != '>') = false := by simp
    simp only [angled?, takeWhile_run all ends, dropWhile_run all ends]
    rw [if_neg (by simpa using filled)]

theorem isAtEnd_iff (oneLine : '\n' ∉ s) : isAtEnd s = true ↔ s = [] := by
  simp only [isAtEnd, Bool.or_eq_true, beq_iff_eq, or_iff_left_iff_imp]
  rintro rfl
  simp at oneLine

end Pieces

/-- A header as the disassembler prints it. The name is not empty and may be any text, as names of templates and of
operators are. -/
def IsHeader (name line : List Char) : Prop :=
  name ≠ [] ∧ ∃ digits blanks, digits ≠ [] ∧ (∀ c ∈ digits, isHexDigit c = true) ∧ blanks ≠ [] ∧
    (∀ c ∈ blanks, isBlank c = true) ∧ line = digits ++ (blanks ++ '<' :: (name ++ ['>', ':']))

def IsHeaderLine (line : List Char) : Prop := ∃ name, IsHeader name line

def IsReadHeader (line : List Char) : Prop := ∃ name, IsHeader name line ∧ '>' ∉ name

section Headers
variable {name name' line : List Char} {row : Row}

/-- The header begins with digits, and the name is what stands between the first and the last bracket after them. -/
theorem IsHeader.parts (h : IsHeader name line) :
    ∃ digits rest, hexDigits? line = some (digits, rest) ∧ someBlank? rest = some ('<' :: (name ++ ['>', ':'])) := by
  obtain ⟨-, digits, blanks, filled, all, blank, blanksAll, rfl⟩ := h
  refine ⟨digits, _, hexDigits?_eq_some_iff.mpr ⟨rfl, filled, all, fun c first => ?_⟩,
    someBlank?_eq_some_iff.mpr ⟨blanks, rfl, blank, blanksAll, by simp; decide⟩⟩
  obtain ⟨b, blanks, rfl⟩ := List.exists_cons_of_ne_nil blank
  obtain rfl := Option.some.inj first
  exact shuns_isHexDigit b (blanksAll b (List.mem_cons_self ..))

theorem isHeader_iff :
    IsHeader name line ↔
      name ≠ [] ∧ ((hexDigits? line).bind fun found => someBlank? found.2) = some ('<' :: (name ++ ['>', ':'])) := by
  constructor
  · intro h
    obtain ⟨digits, rest, digitsRead, blanksRead⟩ := h.parts
    exact ⟨h.1, Option.bind_eq_some_iff.mpr ⟨_, digitsRead, blanksRead⟩⟩
  · rintro ⟨named, read⟩
    obtain ⟨⟨digits, rest⟩, digitsRead, blanksRead⟩ := Option.bind_eq_some_iff.mp read
    obtain ⟨rfl, filled, all, -⟩ := hexDigits?_eq_some_iff.mp digitsRead
    obtain ⟨blanks, rfl, blank, blanksAll, -⟩ := someBlank?_eq_some_iff.mp blanksRead
    exact ⟨named, digits, blanks, filled, all, blank, blanksAll, rfl⟩

instance (name line : List Char) : Decidable (IsHeader name line) := decidable_of_iff _ isHeader_iff.symm

theorem IsHeader.unique (h : IsHeader name line) (h' : IsHeader name' line) : name = name' := by
  obtain ⟨digits, rest, read, after⟩ := h.parts
  obtain ⟨digits', rest', read', after'⟩ := h'.parts
  obtain ⟨rfl, rfl⟩ := Prod.mk.inj (Option.some.inj (read.symm.trans read'))
  have same := (List.cons.inj (Option.some.inj (after.symm.trans after'))).2
  exact (List.append_inj' same rfl).1

theorem header?_eq_some_iff (oneLine : '\n' ∉ line) : header? line = some name ↔ IsHeader name line ∧ '>' ∉ name := by
  constructor
  · intro read
    obtain ⟨⟨digits, r⟩, digitsRead, read⟩ := Option.bind_eq_some_iff.mp read
    obtain ⟨⟨given, r'⟩, nameRead, read⟩ := Option.bind_eq_some_iff.mp read
    obtain ⟨r'', blanksRead, nameRead⟩ := Option.bind_eq_some_iff.mp nameRead
    simp only at read
    split at read
    · rename_i r'''
      split at read
      · rename_i ended
        obtain rfl := Option.some.inj read
        obtain ⟨rfl, filled, all, -⟩ := hexDigits?_eq_some_iff.mp digitsRead
        obtain ⟨blanks, rfl, blank, blanksAll, -⟩ := someBlank?_eq_some_iff.mp blanksRead
        obtain ⟨rfl, named, plain⟩ := angled?_eq_some_iff.mp nameRead
        obtain rfl := (isAtEnd_iff fun there => oneLine (by simp [there])).mp ended
        exact ⟨⟨named, digits, blanks, filled, all, blank, blanksAll, rfl⟩, plain⟩
      · cases read
    · cases read
  · rintro ⟨h, plain⟩
    obtain ⟨digits, rest, digitsRead, blanksRead⟩ := h.parts
    have nameRead : angled? ('<' :: (name ++ ['>', ':'])) = some (name, [':']) :=
      angled?_eq_some_iff.mpr ⟨rfl, h.1, plain⟩
    simp [header?, digitsRead, blanksRead, nameRead, isAtEnd]

theorem header?_eq_none (oneLine : '\n' ∉ line) (unread : ¬ IsReadHeader line) :
    header? line = none :=
  Option.eq_none_iff_forall_ne_some.mpr fun name read => unread ⟨name, (header?_eq_some_iff oneLine).mp read⟩

/-- The place of a source begins with a slash, and an address does not. -/
theorem origin?_of_hexDigits? {found : List Char × List Char} (read : hexDigits? (dropBlank line) = some found) :
    origin? line = none := by
  rw [origin?, Option.map_eq_none_iff]
  unfold originParts?
  split
  · rw [dropBlank_cons, if_neg (by decide)] at read
    cases read
  · rfl

theorem dropBlank_of_hexDigits? {found : List Char × List Char} (read : hexDigits? line = some found) :
    dropBlank line = line := by
  obtain ⟨rfl, filled, all, -⟩ := hexDigits?_eq_some_iff.mp read
  obtain ⟨c, digits, same⟩ := List.exists_cons_of_ne_nil filled
  rw [same, List.cons_append, dropBlank_cons, isBlank_of_isHexDigit (all c (by simp [same])), if_neg (by decide)]

theorem IsHeader.origin? (h : IsHeader name line) : origin? line = none := by
  obtain ⟨digits, rest, read, -⟩ := h.parts
  exact origin?_of_hexDigits? ((dropBlank_of_hexDigits? read).symm ▸ read)

theorem address_of_row (read : row? line = some row) :
    ∃ digits rest, hexDigits? (dropBlank line) = some (digits, ':' :: rest) := by
  obtain ⟨⟨digits, r⟩, digitsRead, read⟩ := Option.bind_eq_some_iff.mp read
  simp only at read
  split at read
  · exact ⟨digits, _, digitsRead⟩
  · cases read

theorem origin?_of_row (read : row? line = some row) : origin? line = none := by
  obtain ⟨digits, rest, digitsRead⟩ := address_of_row read
  exact origin?_of_hexDigits? digitsRead

/-- The address of a row is followed by a colon, and that of a header by a blank. -/
theorem not_isHeader_of_row (read : row? line = some row) : ¬ IsHeader name line := by
  intro h
  obtain ⟨digits, rest, digitsRead⟩ := address_of_row read
  obtain ⟨digits', rest', digitsRead', blanksRead⟩ := h.parts
  rw [dropBlank_of_hexDigits? digitsRead', digitsRead'] at digitsRead
  obtain ⟨-, rfl⟩ := Prod.mk.inj (Option.some.inj digitsRead)
  cases blanksRead

end Headers

/-- What the lines above a line tell of it: the place that rows come from, and the function that is open. -/
structure Progress where
  source : Option SourceLocation
  function : Option (List Char)

namespace Progress

def initial : Progress := ⟨none, none⟩

def next (primary : Option String) (s : Progress) (line : List Char) : Progress :=
  match origin? line, header? line with
  | some (path, number), _ => { s with source := some ⟨number, sourceFile primary (String.ofList path)⟩ }
  | none, some name => { s with function := some name }
  | none, none => s

def after (primary : Option String) (s : Progress) (lines : List (List Char)) : Progress := lines.foldl (next primary) s

def record? (hidden : Option Pattern) (s : Progress) (line : List Char) : Option Line :=
  match origin? line, header? line with
  | some _, _ => none
  | none, some name => if isShown hidden name then some (plain (String.ofList (name ++ [':']))) else none
  | none, none => if s.function.any (isShown hidden) then (row? line).map fun row => row.toLine s.source else none

variable {primary : Option String} {hidden : Option Pattern}

theorem after_concat (s : Progress) (lines : List (List Char)) (line : List Char) :
    s.after primary (lines ++ [line]) = (s.after primary lines).next primary line := by
  simp [after]

theorem disassemblyFrom_cons (s : Progress) (line : List Char) (rest : List (List Char)) :
    disassemblyFrom primary hidden s.source s.function (line :: rest) =
      (s.record? hidden line).toList ++
        disassemblyFrom primary hidden (s.next primary line).source (s.next primary line).function rest := by
  rw [disassemblyFrom, record?, next]
  cases origin? line with
  | some place => rfl
  | none =>
    cases header? line with
    | some name =>
      simp only
      split <;> rfl
    | none =>
      simp only
      split
      · cases row? line <;> rfl
      · rfl

end Progress

def Position.progress (view : View) (p : Position) : Progress := Progress.initial.after view.primary p.above

def Position.record? (view : View) (p : Position) : Option Line := (p.progress view).record? view.hidden p.line

section Walk
variable {view : View} {p : Position}

theorem disassemblyFrom_after (above lines : List (List Char)) :
    disassemblyFrom view.primary view.hidden (Progress.initial.after view.primary above).source
        (Progress.initial.after view.primary above).function lines =
      (positionsFrom above lines).filterMap (Position.record? view) := by
  induction lines generalizing above with
  | nil => rfl
  | cons line rest ih =>
    have later := ih (above ++ [line])
    rw [Progress.after_concat] at later
    have here : (Progress.initial.after view.primary above).record? view.hidden line =
        Position.record? view ⟨above, line⟩ := rfl
    rw [Progress.disassemblyFrom_cons, later, here, positionsFrom, List.filterMap_cons]
    cases Position.record? view ⟨above, line⟩ <;> rfl

theorem disassembly_eq (view : View) (lines : List (List Char)) :
    disassembly view.primary view.hidden lines = (positions lines).filterMap (Position.record? view) :=
  disassemblyFrom_after [] lines

theorem ofText_eq_finished_disassembly {f : Filters} {text : String} {lines : List (List Char)}
    (cut : listingLines text.toList = lines) (filled : text ≠ "") (binary : f.binary = true)
    (several : isNotice lines = false) :
    ofText view f text = finished view f ((positions lines).filterMap (Position.record? view)) := by
  rw [← disassembly_eq, ofText, if_neg (by simpa using filled), cut]
  simp [ofLines, several, annotated, binary, finished]

theorem read_eq_finished_disassembly {f : Filters} {text : String} {lines : List (List Char)}
    (cut : listingLines text.toList = lines) (filled : text ≠ "") (binary : f.binary = true)
    (several : isNotice lines = false) (legible : IsLegible f text) :
    read view f text = .ok (finished view f ((positions lines).filterMap (Position.record? view))) := by
  rw [read_of_legible legible, ofText_eq_finished_disassembly cut filled binary several]

theorem Position.record?_of_header (oneLine : '\n' ∉ p.line) {name : List Char} (header : IsHeader name p.line)
    (plain : '>' ∉ name) :
    p.record? view = if isShown view.hidden name then some (Listing.plain (String.ofList (name ++ [':']))) else none := by
  simp only [Position.record?, Progress.record?, header.origin?, (header?_eq_some_iff oneLine).mpr ⟨header, plain⟩]

theorem Position.record?_of_row (oneLine : '\n' ∉ p.line) {row : Row} (read : row? p.line = some row) :
    p.record? view =
      if (p.progress view).function.any (isShown view.hidden) then some (row.toLine (p.progress view).source)
      else none := by
  have unread : ¬ IsReadHeader p.line := fun ⟨_, header, _⟩ => not_isHeader_of_row read header
  simp only [Position.record?, Progress.record?, origin?_of_row read, header?_eq_none oneLine unread, read,
    Option.map_some]

theorem Position.record?_of_unread (oneLine : '\n' ∉ p.line) {name : List Char} (header : IsHeader name p.line)
    (bracket : '>' ∈ name) : p.record? view = none := by
  have unread : ¬ IsReadHeader p.line := by
    rintro ⟨name', header', plain⟩
    obtain rfl := header.unique header'
    exact plain bracket
  have noRow : row? p.line = none :=
    Option.eq_none_iff_forall_ne_some.mpr fun row read => not_isHeader_of_row read header
  simp only [Position.record?, Progress.record?, header.origin?, header?_eq_none oneLine unread, noRow,
    Option.map_none, ite_self]

end Walk
end AsmScope.Listing
