import AsmScope.Compile.Screen
import AsmScope.Proofs.Text.Lines
import AsmScope.Proofs.Text.Numeral

/-! The includes that the source screen reports. An include is a directive with a quote or bracket before its path, and
blanks may stand between its parts. The screen reports it if its path leads out of the directory of the job, but only
if there is a blank before the quote or bracket. The message of the screen names just the lines that are reported. -/

namespace AsmScope.Source
open Text

def directives : List (List Char) := ["include", "import", "include_next", "import_next"].map String.toList

/-- The line includes the path, and the gap stands between the word and the quote or bracket. -/
def IsInclude (gap path line : List Char) : Prop :=
  ∃ indent space word mark, (∀ c ∈ indent, isBlank c = true) ∧ (∀ c ∈ space, isBlank c = true) ∧ word ∈ directives ∧
    (∀ c ∈ gap, isBlank c = true) ∧ (mark = '"' ∨ mark = '<') ∧
      line = indent ++ '#' :: (space ++ (word ++ (gap ++ mark :: path)))

def Escapes (path : List Char) : Prop := ['/'] <+: path ∨ ['.', '.'] <:+: path

instance (path : List Char) : Decidable (Escapes path) := inferInstanceAs (Decidable (_ ∨ _))

section Line
variable {s r line gap path word : List Char}

theorem escapes_iff (oneLine : '\n' ∉ path) : escapes path = true ↔ Escapes path := by
  have whole : path.takeWhile (· != '\n') = path := by
    refine List.takeWhile_eq_self_iff.mpr fun c there => bne_iff_ne.mpr ?_
    rintro rfl
    exact oneLine there
  unfold escapes
  split
  · simp [Escapes]
  · rename_i other
    rw [occursIn_iff, whole, Escapes, or_iff_right]
    rintro ⟨r, rfl⟩
    exact other r rfl

theorem mem_directives_iff : word ∈ directives ↔ ∃ stem ∈ includeWords, word = stem ∨ word = stem ++ nextMark := by
  have split : directives = includeWords ++ includeWords.map (· ++ nextMark) := rfl
  simp only [split, List.mem_append, List.mem_map, and_or_left, exists_or, exists_eq_right', eq_comm]

theorem afterWord?_word (listed : word ∈ directives) (ends : ¬ nextMark <+: r) : afterWord? (word ++ r) = some r := by
  have found : ∀ stem ∈ includeWords, ∀ t, includeWords.findSome? (fun word => after? word (stem ++ t)) = some t := by
    simp only [includeWords, List.map_cons, List.map_nil, List.forall_mem_cons]
    refine ⟨fun t => ?_, fun t => ?_, by simp⟩
    · rfl
    · rfl
  obtain ⟨stem, known, rfl | rfl⟩ := mem_directives_iff.mp listed
  · have plain : after? nextMark r = none :=
      Option.eq_none_iff_forall_ne_some.mpr fun t read => ends ⟨t, (after?_eq_some_iff.mp read).symm⟩
    rw [afterWord?, found _ known, Option.map_some, plain, Option.getD_none]
  · have marked : after? nextMark (nextMark ++ r) = some r := after?_eq_some_iff.mpr rfl
    rw [List.append_assoc, afterWord?, found stem known, Option.map_some, marked, Option.getD_some]

theorem exists_word_of_afterWord? (read : afterWord? s = some r) : ∃ word ∈ directives, s = word ++ r := by
  obtain ⟨t, found, rfl⟩ := Option.map_eq_some_iff.mp read
  obtain ⟨stem, known, after⟩ := List.exists_of_findSome?_eq_some found
  obtain rfl := after?_eq_some_iff.mp after
  cases marked : after? nextMark t with
  | none => exact ⟨stem, mem_directives_iff.mpr ⟨stem, known, .inl rfl⟩, rfl⟩
  | some u =>
    obtain rfl := after?_eq_some_iff.mp marked
    exact ⟨_, mem_directives_iff.mpr ⟨stem, known, .inr rfl⟩, (List.append_assoc ..).symm⟩

theorem isEscapingInclude_of_isInclude (includes : IsInclude gap path line) :
    isEscapingInclude line = (!gap.isEmpty && escapes path) := by
  obtain ⟨indent, space, word, mark, indented, spaced, listed, blank, opens, rfl⟩ := includes
  have begins : dropBlank (indent ++ '#' :: (space ++ (word ++ (gap ++ mark :: path)))) =
      '#' :: (space ++ (word ++ (gap ++ mark :: path))) :=
    dropWhile_run indented (by simp; decide)
  have named : dropBlank (space ++ (word ++ (gap ++ mark :: path))) = word ++ (gap ++ mark :: path) := by
    have letters : ∀ word ∈ directives, ∃ r, word = 'i' :: r := by
      simp [directives]
    obtain ⟨r, rfl⟩ := letters word listed
    exact dropWhile_run spaced (by simp; decide)
  have ends : ¬ nextMark <+: gap ++ mark :: path := by
    rintro ⟨t, same⟩
    cases gap with
    | nil =>
      obtain rfl : '_' = mark := (List.cons.inj same).1
      revert opens
      decide
    | cons c gap =>
      obtain rfl : '_' = c := (List.cons.inj same).1
      have none := blank '_' (List.mem_cons_self ..)
      revert none
      decide
  have visible : isBlank mark = false := by
    rcases opens with rfl | rfl <;> rfl
  have opened : (mark == '"' || mark == '<') = true := by
    rcases opens with rfl | rfl <;> rfl
  simp only [isEscapingInclude, begins, named, afterWord?_word listed ends, Option.bind_some]
  cases gap with
  | nil => simp [someBlank?, visible]
  | cons c gap =>
    have read : someBlank? (c :: gap ++ mark :: path) = some (mark :: path) :=
      someBlank?_eq_some_iff.mpr ⟨c :: gap, rfl, List.cons_ne_nil _ _, blank, by simp [visible]⟩
    rw [read]
    simp only [opened, Bool.true_and, List.isEmpty_cons, Bool.not_false]

theorem exists_isInclude_of_isEscapingInclude (reported : isEscapingInclude line = true) :
    ∃ gap path, IsInclude gap path line := by
  have cut (s : List Char) : s = s.takeWhile isBlank ++ dropBlank s := (List.takeWhile_append_dropWhile ..).symm
  have run (s : List Char) : ∀ c ∈ s.takeWhile isBlank, isBlank c = true := fun c => List.mem_takeWhile_imp
  unfold isEscapingInclude at reported
  split at reported
  · rename_i r begins
    split at reported
    · rename_i mark path read
      obtain ⟨t, named, opened⟩ := Option.bind_eq_some_iff.mp read
      obtain ⟨word, listed, spelt⟩ := exists_word_of_afterWord? named
      obtain ⟨gap, rfl, -, blank, -⟩ := someBlank?_eq_some_iff.mp opened
      simp only [Bool.and_eq_true, Bool.or_eq_true, beq_iff_eq] at reported
      refine ⟨gap, path, _, _, word, mark, run line, run r, listed, blank, reported.1, ?_⟩
      rw [← spelt, ← cut, ← begins, ← cut]
    · cases reported
  · cases reported

theorem IsInclude.isEscapingInclude_iff (includes : IsInclude gap path line) (oneLine : '\n' ∉ line) :
    isEscapingInclude line = true ↔ gap ≠ [] ∧ Escapes path := by
  have inside : '\n' ∉ path := by
    obtain ⟨indent, space, word, mark, -, -, -, -, -, rfl⟩ := includes
    intro feed
    simp [feed] at oneLine
  rw [isEscapingInclude_of_isInclude includes, Bool.and_eq_true, escapes_iff inside]
  simp

theorem isEscapingInclude_iff_exists (oneLine : '\n' ∉ line) :
    isEscapingInclude line = true ↔ ∃ gap path, IsInclude gap path line ∧ gap ≠ [] ∧ Escapes path := by
  constructor
  · intro reported
    obtain ⟨gap, path, includes⟩ := exists_isInclude_of_isEscapingInclude reported
    exact ⟨gap, path, includes, (includes.isEscapingInclude_iff oneLine).mp reported⟩
  · rintro ⟨gap, path, includes, escaping⟩
    exact (includes.isEscapingInclude_iff oneLine).mpr escaping

end Line

def notice (n : Nat) : String := "<stdin>:" ++ toString n ++ ":1: no absolute or relative includes please"

/-- The screen has a message, and one of its lines is the notice of the number. -/
def Reports (source : String) (n : Nat) : Prop :=
  ∃ failure, check source = some failure ∧ (notice n).toList ∈ failure.message.toList.splitOn '\n'

theorem mem_escapingFrom_iff {n k : Nat} {lines : List (List Char)} :
    k ∈ escapingFrom n lines ↔ ∃ i line, lines[i]? = some line ∧ isEscapingInclude line = true ∧ k = n + i := by
  induction lines generalizing n with
  | nil => simp [escapingFrom]
  | cons first rest ih =>
    have split : k ∈ escapingFrom n (first :: rest) ↔
        isEscapingInclude first = true ∧ k = n ∨ k ∈ escapingFrom (n + 1) rest := by
      rw [escapingFrom]
      split
      · rename_i escaping
        simp [escaping]
      · rename_i harmless
        simp [harmless]
    rw [split, ih]
    constructor
    · rintro (⟨escaping, rfl⟩ | ⟨i, line, there, escaping, rfl⟩)
      · exact ⟨0, first, rfl, escaping, rfl⟩
      · exact ⟨i + 1, line, there, escaping, by omega⟩
    · rintro ⟨i, line, there, escaping, rfl⟩
      cases i with
      | zero =>
        obtain rfl := Option.some.inj there
        exact .inl ⟨escaping, rfl⟩
      | succ i => exact .inr ⟨i, line, there, escaping, by omega⟩

theorem notice_injective {n k : Nat} (same : (notice n).toList = (notice k).toList) : n = k := by
  simp only [notice, String.toList_append, List.append_assoc] at same
  have numbers := List.append_cancel_right (List.append_cancel_left same)
  exact eq_of_toString_eq (String.toList_inj.mp numbers)

theorem newline_not_mem_notice (n : Nat) : '\n' ∉ (notice n).toList := by
  simp only [notice, String.toList_append, List.mem_append, not_or]
  exact ⟨⟨by decide, fun there => absurd (isAsciiDigit_of_mem_toString there) (by decide)⟩, by decide⟩

theorem message_badIncludes {lines : List Nat} (filled : lines ≠ []) :
    (Failure.badIncludes lines).message.toList.splitOn '\n' = lines.map fun n => (notice n).toList := by
  have spelt : (Failure.badIncludes lines).message = String.intercalate "\n" (lines.map notice) := rfl
  rw [spelt, String.toList_intercalate, List.map_map]
  refine List.splitOn_intercalate '\n' (fun line there => ?_) (by simpa using filled)
  obtain ⟨n, -, rfl⟩ := List.mem_map.mp there
  exact newline_not_mem_notice n

theorem reports_iff_mem {source : String} {n : Nat} : Reports source n ↔ n ∈ escapingLines source := by
  unfold Reports check
  split
  · rename_i none
    simp [none]
  · rename_i filled
    simp only [Option.some.injEq, exists_eq_left', message_badIncludes filled, List.mem_map]
    constructor
    · rintro ⟨k, listed, same⟩
      rwa [← notice_injective same]
    · intro listed
      exact ⟨n, listed, rfl⟩

theorem reports_iff_isEscapingInclude {source : String} {i : Nat} {line : List Char}
    (there : (source.toList.splitOn '\n')[i]? = some line) :
    Reports source (i + 1) ↔ isEscapingInclude line = true := by
  rw [reports_iff_mem, escapingLines, mem_escapingFrom_iff]
  constructor
  · rintro ⟨k, line', there', reported, number⟩
    obtain rfl : i = k := by omega
    rwa [Option.some.inj (there.symm.trans there')]
  · intro reported
    exact ⟨i, line, there, reported, Nat.add_comm i 1⟩

theorem reports_iff_exists {source : String} {n : Nat} : Reports source n ↔ ∃ i line gap path, n = i + 1 ∧
    (source.toList.splitOn '\n')[i]? = some line ∧ IsInclude gap path line ∧ gap ≠ [] ∧ Escapes path := by
  rw [reports_iff_mem, escapingLines, mem_escapingFrom_iff]
  constructor
  · rintro ⟨i, line, there, reported, rfl⟩
    have oneLine := not_mem_of_mem_splitOn (List.mem_of_getElem? there)
    obtain ⟨gap, path, found⟩ := (isEscapingInclude_iff_exists oneLine).mp reported
    exact ⟨i, line, gap, path, Nat.add_comm 1 i, there, found⟩
  · rintro ⟨i, line, gap, path, rfl, there, found⟩
    have oneLine := not_mem_of_mem_splitOn (List.mem_of_getElem? there)
    exact ⟨i, line, there, (isEscapingInclude_iff_exists oneLine).mpr ⟨gap, path, found⟩, Nat.add_comm i 1⟩

end AsmScope.Source
