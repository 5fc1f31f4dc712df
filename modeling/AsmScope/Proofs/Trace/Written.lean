import AsmScope.Proofs.Listing.Filtering
import AsmScope.Proofs.Listing.Places
import AsmScope.Proofs.Trace.Records

/-! How the reader of a listing takes the lines that a trace is written as. A file line gives one file its number and a
location line one place; both are directives. The line of a record itself begins with a small letter and says nothing
of places, and what its operands hold decides whether it counts as an instruction. -/

namespace AsmScope.Trace
open AsmScope.Text AsmScope.Listing

theorem decimal_eq (n : Nat) : decimal n = Nat.toDigits 10 n := by
  simp [decimal]

theorem fileLine_eq (n : Nat) (file : List Char) :
    fileLine n file =
      '\t' :: '.' :: ("file".toList ++ ' ' :: (Nat.toDigits 10 n ++ ' ' :: '"' :: (file ++ ['"']))) := by
  unfold fileLine
  rw [decimal_eq]
  generalize Nat.toDigits 10 n = digits
  simp

theorem locLine_eq (n : Nat) (line : List Char) :
    locLine n line = '\t' :: '.' :: ("loc".toList ++ ' ' :: (Nat.toDigits 10 n ++ ' ' :: line)) := by
  unfold locLine
  rw [decimal_eq]
  generalize Nat.toDigits 10 n = digits
  simp

theorem classify_fileLine (n : Nat) (file : List Char) : classify (fileLine n file) = .directive := by
  rw [fileLine_eq]
  exact classify_directive (by decide) (by decide)

theorem classify_locLine (n : Nat) (line : List Char) : classify (locLine n line) = .directive := by
  rw [locLine_eq]
  exact classify_directive (by decide) (by decide)

theorem quotedName?_quoted {name : List Char} (filled : name ≠ []) (plain : '"' ∉ name) :
    quotedName? ('"' :: (name ++ ['"'])) = some (name, []) := by
  have all : ∀ c ∈ name, (c != '"') = true := fun c hc => bne_iff_ne.mpr (ne_of_mem_of_not_mem hc plain)
  have ends : ∀ c ∈ ['"'].head?, (c != '"') = false := by simp
  simp only [quotedName?, takeWhile_run all ends, dropWhile_run all ends]
  rw [if_neg (by simpa using filled)]

theorem fileParts?_fileLine (n : Nat) {file : List Char} (filled : file ≠ []) (plain : '"' ∉ file) :
    fileParts? (fileLine n file) = some (Nat.toDigits 10 n, String.ofList file) := by
  have digits : ∀ c ∈ Nat.toDigits 10 n, isAsciiDigit c = true := fun c => isAsciiDigit_toDigits
  have begins : (afterFile? (dropBlank (fileLine n file))).bind someBlank? =
      some (Nat.toDigits 10 n ++ ' ' :: '"' :: (file ++ ['"'])) := by
    rw [fileLine_eq]
    exact someBlank?_digits Nat.toDigits_ne_nil digits
  have blank : ∀ c ∈ (' ' :: '"' :: (file ++ ['"'])).head?, isDigit c = false := by simpa using by decide
  have number := numeral?_run Nat.toDigits_ne_nil digits blank
  have name : (someBlank? (' ' :: '"' :: (file ++ ['"']))).bind quotedName? = some (file, []) :=
    quotedName?_quoted filled plain
  have last : (someBlank? []).bind quotedName? = none := rfl
  simp [fileParts?, begins, number, name, last]

theorem fileEntry?_fileLine (n : Nat) {file : List Char} (filled : file ≠ []) (plain : '"' ∉ file) :
    fileEntry? (fileLine n file) = some (n, String.ofList file) := by
  rw [ fileEntry?, fileParts?_fileLine n filled plain, Option.map_some, decimalValue_toDigits]

theorem locationParts?_locLine (n : Nat) {line : List Char} (filled : line ≠ [])
    (digits : ∀ c ∈ line, isAsciiDigit c = true) :
    locationParts? (locLine n line) = some (Nat.toDigits 10 n, line) := by
  rw [locLine_eq]
  exact locationParts?_run Nat.toDigits_ne_nil (fun c => isAsciiDigit_toDigits) filled digits

theorem location?_locLine (n : Nat) {line : List Char} (filled : line ≠ [])
    (digits : ∀ c ∈ line, isAsciiDigit c = true) : location? (locLine n line) = some (n, decimalValue line) := by
  rw [location?, locationParts?_locLine n filled digits, Option.map_some, decimalValue_toDigits]

theorem fileParts?_locLine (n : Nat) (line : List Char) : fileParts? (locLine n line) = none := by
  rw [locLine_eq]
  rfl

theorem fileEntry?_locLine (n : Nat) (line : List Char) : fileEntry? (locLine n line) = none := by
  rw [ fileEntry?, fileParts?_locLine, Option.map_none]

theorem locationParts?_fileLine (n : Nat) (file : List Char) : locationParts? (fileLine n file) = none := by
  rw [fileLine_eq]
  rfl

theorem endsBlock_locLine (n : Nat) {line : List Char} (digits : ∀ c ∈ line, isAsciiDigit c = true) :
    endsBlock (locLine n line) = false := by
  have point : '.' ∉ "loc".toList ++ ' ' :: (Nat.toDigits 10 n ++ ' ' :: line) := by
    have number {s : List Char} (digits : ∀ c ∈ s, isAsciiDigit c = true) : '.' ∉ s :=
      fun there => absurd (digits '.' there) (by decide)
    simp [number digits, number fun c => isAsciiDigit_toDigits (n := n) (c := c)]
  have word : pointWord? ('.' :: ("loc".toList ++ ' ' :: (Nat.toDigits 10 n ++ ' ' :: line))) = some "loc".toList := rfl
  have later := endsBlock_append point (t := [])
  rw [List.append_nil] at later
  rw [locLine_eq, endsBlock, endsBlock, word, later]
  rfl

def smallLetters : List Char := "abcdefghijklmnopqrstuvwxyz".toList

theorem toLower_mem_smallLetters {c : Char} (capital : isCapital c = true) : c.toLower ∈ smallLetters := by
  have code : c.toNat ∈ List.range' 65 26 := by
    simp only [isCapital, Bool.and_eq_true, decide_eq_true_eq, Char.le_def, UInt32.le_iff_toNat_le] at capital
    rw [List.mem_range'_1]
    exact ⟨capital.1, Nat.lt_succ_of_le capital.2⟩
  have all : ∀ n ∈ List.range' 65 26, (Char.ofNat n).toLower ∈ smallLetters := by decide +kernel
  rw [← Char.ofNat_toNat c]
  exact all _ code

section Letter
variable {c : Char} (small : c ∈ smallLetters) (tail : List Char)
include small

theorem dropBlank_letter : dropBlank ('\t' :: c :: tail) = c :: tail := by
  have visible : smallLetters.any isBlank = false := by decide +kernel
  rw [dropBlank_cons, if_pos (by decide), dropBlank_cons, if_neg (List.any_eq_false.mp visible c small)]

theorem ne_point_of_small : c ≠ '.' := ne_of_mem_of_not_mem small (by decide)

theorem fileParts?_letter : fileParts? ('\t' :: c :: tail) = none := by
  have other : afterFile? (c :: tail) = none := by
    unfold afterFile?
    split
    · rename_i same
      exact absurd (List.cons.inj same).1 (ne_point_of_small small)
    · rfl
  simp [fileParts?, dropBlank_letter small, other]

theorem fileEntry?_letter : fileEntry? ('\t' :: c :: tail) = none := by
  rw [ fileEntry?, fileParts?_letter small, Option.map_none]

theorem locationParts?_letter : locationParts? ('\t' :: c :: tail) = none := by
  have other : afterLoc? (c :: tail) = none := by
    unfold afterLoc?
    split
    · rename_i same
      exact absurd (List.cons.inj same).1 (ne_point_of_small small)
    · rfl
  simp [locationParts?, dropBlank_letter small, other]

theorem location?_letter : location? ('\t' :: c :: tail) = none := by
  rw [location?, locationParts?_letter small, Option.map_none]

theorem classify_letter :
    classify ('\t' :: c :: tail) =
      if (definition? ('\t' :: c :: tail)).any fun d => isLabelTail d.2 then .label else .instruction := by
  have begins := dropBlank_letter small tail
  have visible : ¬ ('\t' :: c :: tail).all isBlank = true := by
    rw [← dropBlank_eq_nil_iff, begins]
    exact List.cons_ne_nil _ _
  have other (mark : Char) (none : mark ∉ smallLetters) : mark ≠ c := (ne_of_mem_of_not_mem small none).symm
  have plain : ¬ opensComment (c :: tail) = true := by
    rw [opensComment_iff]
    simp [other '#' (by decide), other '@' (by decide), other ';' (by decide), other '/' (by decide)]
  have data : isData ('\t' :: c :: tail) = false := by
    simp [isData, begins, pointWord?_cons, ne_point_of_small small]
  have point : startsWithPoint ('\t' :: c :: tail) = false := by
    simp [startsWithPoint, begins, ne_point_of_small small]
  rw [classify, if_neg visible, begins, if_neg plain, data, point]
  rfl

theorem isInstruction_of_hasOpcode (opcode : hasOpcode ('\t' :: c :: tail) = true) :
    isInstruction ('\t' :: c :: tail) = true := by
  rw [isInstruction, classify_letter small]
  split
  · rename_i alone
    cases found : definition? ('\t' :: c :: tail) with
    | none =>
      rw [found] at alone
      cases alone
    | some d =>
      rw [found] at alone
      have after : afterLabel ('\t' :: c :: tail) = d.2 := by simp [afterLabel, found]
      rw [hasOpcode_of_isLabelTail (after ▸ alone)] at opcode
      cases opcode
  · rfl

end Letter

section Instruction
variable {r : Record} (sound : r.IsSound)
include sound

theorem instruction_begins : ∃ c ∈ smallLetters, ∃ tail, instruction r = '\t' :: c :: tail := by
  obtain ⟨c, rest, same⟩ := List.exists_cons_of_ne_nil sound.called
  have small := toLower_mem_smallLetters (sound.capitals c (same ▸ List.mem_cons_self ..))
  exact ⟨c.toLower, small, rest.map Char.toLower ++ r.operands, by simp [instruction, same]⟩

theorem small_of_mem_opcode {c : Char} (h : c ∈ r.opcode.map Char.toLower) : c ∈ smallLetters := by
  obtain ⟨d, there, rfl⟩ := List.mem_map.mp h
  exact toLower_mem_smallLetters (sound.capitals d there)

theorem endsBlock_instruction : endsBlock (instruction r) = endsBlock r.operands := by
  have none : '.' ∉ '\t' :: r.opcode.map Char.toLower := by
    rw [List.mem_cons, not_or]
    exact ⟨by decide, fun there => ne_point_of_small (small_of_mem_opcode sound there) rfl⟩
  exact endsBlock_append (s := '\t' :: r.opcode.map Char.toLower) none

theorem newline_not_mem_instruction : '\n' ∉ instruction r := by
  intro there
  rcases List.mem_cons.mp there with same | there
  · cases same
  · rcases List.mem_append.mp there with there | there
    · exact absurd (small_of_mem_opcode sound there) (by decide)
    · exact sound.operandsOneLine there

theorem getLast?_instruction : (instruction r).getLast? ≠ some '\r' := by
  intro last
  unfold instruction at last
  rw [← List.cons_append, List.getLast?_append] at last
  cases ends : r.operands.getLast? with
  | some c =>
    rw [ends, Option.some_or, Option.some.injEq] at last
    subst last
    exact absurd (sound.visibleEnd _ ends) (by decide)
  | none =>
    rw [ends, Option.none_or] at last
    rcases List.mem_cons.mp (List.mem_of_getLast? last) with same | there
    · cases same
    · exact absurd (small_of_mem_opcode sound there) (by decide)

end Instruction

/-- A line that comes back from the text it is written into, and no notice. -/
structure IsWritten (line : List Char) : Prop where
  oneLine : '\n' ∉ line
  begins : line.head? = some '\t'
  ended : line.getLast? ≠ some '\r'

theorem isWritten_fileLine (n : Nat) {file : List Char} (oneLine : '\n' ∉ file) : IsWritten (fileLine n file) := by
  have number : '\n' ∉ Nat.toDigits 10 n := fun there => absurd (isAsciiDigit_toDigits there) (by decide)
  rw [fileLine_eq]
  refine ⟨by simp [number, oneLine], rfl, ?_⟩
  simp [List.getLast?_cons, List.getLast?_append]

theorem isWritten_locLine (n : Nat) {line : List Char} (filled : line ≠ [])
    (digits : ∀ c ∈ line, isAsciiDigit c = true) : IsWritten (locLine n line) := by
  have visible {c : Char} {s : List Char} (digits : ∀ c ∈ s, isAsciiDigit c = true) (other : isAsciiDigit c = false) :
      c ∉ s := fun there => by rw [digits c there] at other; cases other
  have number : '\n' ∉ Nat.toDigits 10 n := visible (fun c => isAsciiDigit_toDigits) rfl
  rw [locLine_eq]
  refine ⟨by simp [number, visible digits (c := '\n') rfl], rfl, fun last => ?_⟩
  have split : '\t' :: '.' :: ("loc".toList ++ ' ' :: (Nat.toDigits 10 n ++ ' ' :: line)) =
      ('\t' :: '.' :: ("loc".toList ++ ' ' :: (Nat.toDigits 10 n ++ [' ']))) ++ line := by simp
  rw [split, List.getLast?_append_of_ne_nil _ filled] at last
  exact visible digits (c := '\r') rfl (List.mem_of_getLast? last)

theorem isWritten_instruction {r : Record} (sound : r.IsSound) : IsWritten (instruction r) :=
  ⟨newline_not_mem_instruction sound, rfl, getLast?_instruction sound⟩

end AsmScope.Trace
