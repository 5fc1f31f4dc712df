import AsmScope.Proofs.Listing.Textual
import AsmScope.Proofs.Text.Numeral

/-! Places in assembler text. What a line says of the place is read from its first words alone, and the ends of blocks
from every point in it. A line that defines a label and nothing else carries no opcode. -/

namespace AsmScope.Listing
open AsmScope.Text

theorem dropBlank_takeWhile {p : Char → Bool} (blanks : ∀ c, isBlank c = true → p c = true) (s : List Char) :
    dropBlank (s.takeWhile p) = (dropBlank s).takeWhile p := by
  induction s with
  | nil => rfl
  | cons c s ih =>
    rw [dropBlank_cons]
    cases blank : isBlank c with
    | true => rw [List.takeWhile_cons_of_pos (blanks c blank), dropBlank_cons, blank, if_pos rfl, if_pos rfl, ih]
    | false =>
      rw [if_neg Bool.false_ne_true, List.takeWhile_cons]
      split
      · rw [dropBlank_cons, blank, if_neg Bool.false_ne_true]
      · rfl

theorem hasOpcode_of_isLabelTail {line : List Char} (alone : isLabelTail (afterLabel line) = true) :
    hasOpcode line = false := by
  simp only [hasOpcode, dropBlank_takeWhile fun _ => no_comment_of_isBlank]
  simp only [isLabelTail, Bool.or_eq_true, List.isEmpty_iff, Bool.and_eq_true] at alone
  rcases alone with blank | ⟨comment, -⟩
  · simp [blank]
  · rcases (opensTrailingComment_iff _).mp comment with ⟨r, same⟩ | ⟨r, same⟩ | ⟨r, same⟩
    · simp [← same]
    · simp [← same]
    · simp [← same, isAsciiLetter]

/-- An opcode is a letter: it begins neither a directive nor nothing. -/
theorem hasOpcode_of_undefined {line : List Char} (undefined : definition? line = none)
    (other : (dropBlank line).head?.any isAsciiLetter = false) : hasOpcode line = false := by
  have whole : afterLabel line = line := by rw [afterLabel, undefined]; rfl
  have first : ((dropBlank line).takeWhile fun c => c != '#' && c != ';').head?.any isAsciiLetter = false := by
    cases begins : dropBlank line with
    | nil => rfl
    | cons c r =>
      rw [begins] at other
      rw [List.takeWhile_cons]
      split
      · exact other
      · rfl
  simp only [hasOpcode, whole, dropBlank_takeWhile fun _ => no_comment_of_isBlank, first, Bool.and_false]

theorem endsBlock_append {s t : List Char} (none : '.' ∉ s) : endsBlock (s ++ t) = endsBlock t := by
  induction s with
  | nil => rfl
  | cons c s ih =>
    rw [List.mem_cons, not_or] at none
    rw [List.cons_append, endsBlock, pointWord?_cons, if_neg (Ne.symm none.1), ih none.2]
    rfl

section Numbers
variable {digits rest : List Char} (filled : digits ≠ []) (all : ∀ c ∈ digits, isAsciiDigit c = true)
include filled all

theorem numeral?_run (ends : ∀ c ∈ rest.head?, isDigit c = false) :
    numeral? (digits ++ rest) = some (digits, rest) := by
  have all' : ∀ c ∈ digits, isDigit c = true := fun c hc => isDigit_of_isAsciiDigit (all c hc)
  simp only [numeral?, takeWhile_run all' ends, dropWhile_run all' ends]
  rw [if_neg (by simpa using filled)]

theorem someBlank?_digits : someBlank? (' ' :: (digits ++ rest)) = some (digits ++ rest) := by
  obtain ⟨c, tail, rfl⟩ := List.exists_cons_of_ne_nil filled
  have visible : isBlank c = false := by
    by_contra blank
    have digit := all c (List.mem_cons_self ..)
    rw [(shuns_of_codes (by decide +kernel) : Shuns isAsciiDigit) c (by simpa using blank)] at digit
    cases digit
  rw [someBlank?, if_pos (by decide), List.cons_append, dropBlank_cons, visible, if_neg Bool.false_ne_true]

end Numbers

theorem locationParts?_run {file line : List Char} (named : file ≠ []) (digits : ∀ c ∈ file, isAsciiDigit c = true)
    (filled : line ≠ []) (digits' : ∀ c ∈ line, isAsciiDigit c = true) :
    locationParts? ('\t' :: '.' :: ("loc".toList ++ ' ' :: (file ++ ' ' :: line))) = some (file, line) := by
  have begins : (afterLoc? (dropBlank ('\t' :: '.' :: ("loc".toList ++ ' ' :: (file ++ ' ' :: line))))).bind someBlank? =
      some (file ++ ' ' :: line) := someBlank?_digits named digits
  have blank : ∀ c ∈ (' ' :: line).head?, isDigit c = false := by simpa using by decide
  have number : (someBlank? (' ' :: line)).bind numeral? = some (line, []) := by
    have after : someBlank? (' ' :: (line ++ [])) = some (line ++ []) := someBlank?_digits filled digits'
    have whole : numeral? (line ++ []) = some (line, []) := numeral?_run filled digits' nofun
    rw [List.append_nil] at after whole
    rw [after]
    exact whole
  rw [locationParts?, begins]
  simp [numeral?_run named digits blank, number]

section Point
variable {word rest : List Char}

theorem classify_directive (letters : word.all (fun c => isLabelChar c && isWord c) = true)
    (other : dataOps.contains word = false) : classify ('\t' :: '.' :: (word ++ ' ' :: rest)) = .directive := by
  simp only [List.all_eq_true, Bool.and_eq_true] at letters
  have begins : dropBlank ('\t' :: '.' :: (word ++ ' ' :: rest)) = '.' :: (word ++ ' ' :: rest) := rfl
  have undefined : definition? ('\t' :: '.' :: (word ++ ' ' :: rest)) = none := by
    have ends : (word ++ ' ' :: rest).dropWhile isLabelChar = ' ' :: rest :=
      dropWhile_run (fun c hc => (letters c hc).1) (by simp [isLabelChar, isAsciiLetter, isAsciiDigit])
    simp [definition?, begins, ends]
  have called : (word ++ ' ' :: rest).takeWhile isWord = word :=
    takeWhile_run (fun c hc => (letters c hc).2) (by simpa using by decide)
  have visible : ('\t' :: '.' :: (word ++ ' ' :: rest)).all isBlank = false := rfl
  have plain : opensComment ('.' :: (word ++ ' ' :: rest)) = false := rfl
  have point : startsWithPoint ('\t' :: '.' :: (word ++ ' ' :: rest)) = true := by simp [startsWithPoint, begins]
  have data : isData ('\t' :: '.' :: (word ++ ' ' :: rest)) = false := by
    simp only [isData, begins, pointWord?, called, other]
  simp [classify, visible, plain, begins, undefined, data, point]

end Point

theorem Standing.own_source (s : Standing) (t : Tables) (kind : Kind) (line : List Char) :
    (s.own t kind line).source = s.source := by
  unfold Standing.own
  split
  · rfl
  · split <;> rfl
  · rfl

theorem Standing.next_of_visible (s : Standing) (t : Tables) {line : List Char} (visible : classify line ≠ .blank) :
    s.next t line = (s.enter t line).own t (classify line) line := by
  unfold Standing.next
  split
  · rename_i blank
    exact absurd blank visible
  · rfl

theorem Standing.next_source (s : Standing) (t : Tables) {line : List Char} (visible : classify line ≠ .blank) :
    (s.next t line).source =
      if endsBlock line then none
      else match location? line with
        | some (file, number) => some (t.locate file number)
        | none => s.source := by
  rw [s.next_of_visible t visible, Standing.own_source, Standing.enter]
  split
  · rfl
  · cases location? line <;> rfl

def Standing.after (s : Standing) (t : Tables) (lines : List (List Char)) : Standing :=
  lines.foldl (fun s line => s.next t line) s

theorem textualFrom_append (f : Filters) (t : Tables) (s : Standing) (before after : List (List Char)) :
    textualFrom f t s (before ++ after) = textualFrom f t s before ++ textualFrom f t (s.after t before) after := by
  induction before generalizing s with
  | nil => rfl
  | cons line before ih =>
    rw [List.cons_append, textualFrom_cons, textualFrom_cons, ih, List.append_assoc]
    rfl

end AsmScope.Listing
