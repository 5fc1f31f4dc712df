import AsmScope.Proofs.Listing.Functions
import AsmScope.Text.Utf8

/-! Rows as the disassembler prints them. Every octet is two digits and a space, so the octets end where the padding
begins, whatever the instruction begins with. A row below the header of a function that is shown comes back as its
address, its octets and its instruction, unless the header is one that is not read. -/

namespace AsmScope.Listing
open AsmScope.Text

def octetText (octet : UInt8) : List Char := octetDigits octet ++ [' ']

/-- Blanks, an address, a colon and a tab, octets, padding, a tab, and the text of an instruction. -/
structure PrintedRow where
  indent : List Char
  zeros : Nat
  address : Nat
  octets : Octets
  padding : Nat
  instruction : List Char
  indented : ∀ c ∈ indent, isBlank c = true
  filled : octets ≠ []

namespace PrintedRow

def written (r : PrintedRow) : List Char :=
  r.indent ++ (addressText r.zeros r.address ++ ':' :: '\t' ::
    (r.octets.flatMap octetText ++ (List.replicate r.padding ' ' ++ '\t' :: r.instruction)))

def row (r : PrintedRow) : Row := ⟨r.address, r.octets.map UInt8.toNat, ' ' :: trim r.instruction⟩

structure IsShownAs (r : PrintedRow) (l : Line) : Prop where
  address : l.address = some (r.address : Int)
  opcodes : l.opcodes = some (r.octets.map fun octet => (octet.toNat : Int))
  text : l.text = String.ofList (' ' :: trim r.instruction)

end PrintedRow

section Octets
variable {octets : Octets} {rest : List Char}

theorem octetRun_of_head (ends : ∀ c ∈ rest.head?, isHexDigit c = false) : octetRun rest = ([], rest) := by
  unfold octetRun
  split
  · rw [ends _ rfl]
    rfl
  · rw [ends _ rfl]
    rfl
  · rfl

theorem octetRun_printed (ends : ∀ c ∈ rest.head?, isHexDigit c = false) :
    octetRun (octets.flatMap octetText ++ rest) = (octets.flatMap octetText, rest) := by
  induction octets with
  | nil => exact octetRun_of_head ends
  | cons octet octets ih =>
    have digits : ∀ c ∈ octetDigits octet, isHexDigit c = true := fun c => isHexDigit_of_mem_octetDigits
    simp only [octetDigits, List.forall_mem_cons] at digits
    simp only [List.flatMap_cons, octetText, octetDigits, List.cons_append, List.nil_append, octetRun, digits.1,
      digits.2.1, Bool.and_self, if_true]
    rw [ih]

theorem blankWords_printed : blankWords (octets.flatMap octetText) = octets.map octetDigits := by
  induction octets with
  | nil => rfl
  | cons octet octets ih =>
    have visible : ∀ c ∈ octetDigits octet, isBlank c = false :=
      fun c there => isBlank_of_isHexDigit (isHexDigit_of_mem_octetDigits there)
    simp only [octetDigits, List.forall_mem_cons] at visible
    have space : isBlank ' ' = true := rfl
    have later : wordsFrom (octets.flatMap octetText) [] = octets.map octetDigits := ih
    simp [blankWords, octetText, octetDigits, wordsFrom, visible, space, later]

end Octets

section Reading
variable {r : PrintedRow}

theorem row?_written (oneLine : '\n' ∉ r.instruction) : row? r.written = some r.row := by
  obtain ⟨octet, octets, printed⟩ := List.exists_cons_of_ne_nil r.filled
  obtain ⟨digit, digits, addressed⟩ := List.exists_cons_of_ne_nil (addressText_ne_nil r.zeros r.address)
  have address : ∀ c ∈ addressText r.zeros r.address, isHexDigit c = true := fun c => isHexDigit_of_mem_addressText
  have first : isBlank digit = false := isBlank_of_isHexDigit (address digit (by simp [addressed]))
  have start : dropBlank r.written = addressText r.zeros r.address ++ ':' :: '\t' ::
      (r.octets.flatMap octetText ++ (List.replicate r.padding ' ' ++ '\t' :: r.instruction)) :=
    dropWhile_run r.indented (by simp [addressed, first])
  have octetsFirst : isBlank (hexDigit (octet.toNat / 16)) = false :=
    isBlank_of_isHexDigit (isHexDigit_of_mem_octetDigits (List.mem_cons_self ..))
  have tab (rest : List Char) : dropBlank ('\t' :: (r.octets.flatMap octetText ++ rest)) =
      r.octets.flatMap octetText ++ rest := by
    rw [dropBlank_cons, if_pos (by decide), printed]
    simp [octetText, octetDigits, dropBlank_cons, octetsFirst]
  have padded : dropBlank (List.replicate r.padding ' ' ++ '\t' :: r.instruction) = dropBlank r.instruction := by
    rw [dropBlank, List.dropWhile_append_of_pos fun c there => by rw [List.eq_of_mem_replicate there]; rfl]
    rfl
  have whole : (dropBlank r.instruction).takeWhile (· != '\n') = dropBlank r.instruction := by
    rw [List.takeWhile_eq_self_iff]
    intro c there
    rw [bne_iff_ne]
    rintro rfl
    exact oneLine ((List.dropWhile_sublist _).subset there)
  have ends : ∀ c ∈ (List.replicate r.padding ' ' ++ '\t' :: r.instruction).head?, isHexDigit c = false := by
    cases r.padding <;> simp [List.replicate_succ] <;> decide
  have values : r.octets.map (fun octet => hexValue (octetDigits octet)) = r.octets.map UInt8.toNat :=
    List.map_congr_left fun octet _ => hexValue_octetDigits octet
  have filled : (r.octets.flatMap octetText).isEmpty = false := by
    rw [printed]
    rfl
  have read := hexDigits?_eq_some_iff.mpr ⟨start, addressText_ne_nil r.zeros r.address, address, by simp; decide⟩
  simp only [row?, read, Option.bind_eq_bind, Option.bind_some, tab, octetRun_printed ends, filled, Bool.false_eq_true,
    if_false, padded, whole, blankWords_printed, List.map_map, Function.comp_def, values, hexValue_addressText,
    PrintedRow.row, trim]

theorem PrintedRow.isShownAs_toLine (r : PrintedRow) (source : Option SourceLocation) :
    r.IsShownAs (r.row.toLine source) :=
  ⟨rfl, by simp [PrintedRow.row, Row.toLine, List.map_map, Function.comp_def], rfl⟩

theorem PrintedRow.instruction_subset (r : PrintedRow) : r.instruction ⊆ r.written := by
  intro c there
  simp [PrintedRow.written, there]

end Reading

/-- Printed rows are decoded, except where the header above is not read. A disassembly whose numerals are not too long, and
no other, is listed, and it shows the records of its lines in order. Whatever is shown for a row that was printed has
its address, its octets, and its instruction without the blanks around it, after one space. Below the header of a function
that is shown one such line is shown for it just if the row is not lost. -/
theorem printed_row_decoded_iff {view : View} {f : Filters} {text : String} {lines : List (List Char)}
    (cut : listingLines text.toList = lines) (filled : text ≠ "") (binary : f.binary = true)
    (several : isNotice lines = false) :
    (IsLegible f text →
        read view f text = .ok (finished view f ((positions lines).filterMap (Position.record? view)))) ∧
      (¬ IsLegible f text → ∃ e, read view f text = .error e) ∧
      ∀ p ∈ positions lines, ∀ r : PrintedRow, p.line = r.written →
        (∀ l, p.record? view = some l → r.IsShownAs l) ∧
        ∀ name, IsUnder name p.above → isShown view.hidden name = true →
          ((∃ l, p.record? view = some l ∧ r.IsShownAs l) ↔ ¬ p.IsLost view.hidden) := by
  refine ⟨read_eq_finished_disassembly cut filled binary several, read_of_illegible, fun p there r printed => ?_⟩
  obtain ⟨oneLine, above⟩ := Position.oneLine_of_mem (cut.symm ▸ there)
  have whole : '\n' ∉ r.instruction := fun inside => oneLine (printed ▸ r.instruction_subset inside)
  have readRow : row? p.line = some r.row := printed ▸ row?_written whole
  have decoded {l : Line} (shown : p.record? view = some l) : r.IsShownAs l := by
    obtain ⟨-, rfl⟩ := (p.record?_eq_some_iff oneLine above readRow).mp shown
    exact r.isShownAs_toLine _
  refine ⟨fun l => decoded, fun name under shown => ?_⟩
  rw [← p.read_shown_iff under shown]
  constructor
  · rintro ⟨l, found, -⟩
    exact ((p.record?_eq_some_iff oneLine above readRow).mp found).1
  · intro former
    have found := (p.record?_eq_some_iff oneLine above readRow).mpr ⟨former, rfl⟩
    exact ⟨_, found, decoded found⟩

def hexMnemonic : String := "1129 <square>:\n  1129:\t01 c7    \tadd    %eax,%edi \n"

def addRow : PrintedRow where
  indent := [' ', ' ']
  zeros := 0
  address := 0x1129
  octets := [0x01, 0xc7]
  padding := 3
  instruction := "add    %eax,%edi ".toList
  indented := List.all_eq_true.mp (by decide)
  filled := by decide

theorem printed_row_decoded_iff_hexMnemonic :
    (read {} { binary := true } hexMnemonic).map (List.map Line.text) = .ok ["square:", " add    %eax,%edi"] ∧
      ∃ l, Position.record? {} ⟨["1129 <square>:".toList], addRow.written⟩ = some l ∧ addRow.IsShownAs l := by
  obtain ⟨listed, -, lines⟩ :=
    @printed_row_decoded_iff {} { binary := true } hexMnemonic _ rfl (by decide) rfl (by decide)
  refine ⟨by rw [listed (by decide +kernel)]; decide +kernel, ?_⟩
  have header : IsHeader "square".toList "1129 <square>:".toList := by decide
  have under : IsUnder "square".toList ["1129 <square>:".toList] := ⟨_, [], ⟨[], rfl, ⟨_, header⟩, by simp⟩, header⟩
  have last : (⟨["1129 <square>:".toList], addRow.written⟩ : Position) ∈ positions (listingLines hexMnemonic.toList) :=
    mem_positions.mpr ⟨[], by decide⟩
  exact ((lines _ last addRow rfl).2 _ under rfl).mpr (Position.straight under (by decide)).1

def templateAlone : String := "1010 <f<int>()>:\n 1010:\t90 \tnop\n"

def nopRow : PrintedRow where
  indent := [' ']
  zeros := 0
  address := 0x1010
  octets := [0x90]
  padding := 0
  instruction := "nop".toList
  indented := List.all_eq_true.mp (by decide)
  filled := by decide

/-- The row stands below the header of a function that is shown, and nothing is shown for it. -/
theorem template_row_lost :
    listingLines templateAlone.toList = ["1010 <f<int>()>:".toList, nopRow.written] ∧
      IsUnder "f<int>()".toList ["1010 <f<int>()>:".toList] ∧ isShown none "f<int>()".toList = true ∧
      read {} { binary := true } templateAlone = .ok [] := by
  have header : IsHeader "f<int>()".toList "1010 <f<int>()>:".toList := by decide
  exact ⟨by decide, ⟨_, [], ⟨[], rfl, ⟨_, header⟩, by simp⟩, header⟩, rfl, by decide +kernel⟩

end AsmScope.Listing
