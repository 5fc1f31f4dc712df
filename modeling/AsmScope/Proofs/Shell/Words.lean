import AsmScope.Shell.Words
import Mathlib.Data.String.Basic

/-! Words between single quotes are read back as they were, whatever they hold. Between the quotes every character
stands for itself but the single quote, which leaves them, stands between double ones, and comes back. -/

namespace AsmScope.Shell

def quotedLine (words : List String) : String :=
  String.intercalate " " (words.map fun word => String.ofList (singleQuoted word.toList))

/-- After a part of a quoted word the splitter is between single quotes again, with that part read. -/
theorem wordsFrom_flatMap_quoteChar (word s rest : List Char) :
    wordsFrom .single word (s.flatMap quoteChar ++ rest) = wordsFrom .single (s.reverse ++ word) rest := by
  induction s generalizing word with
  | nil => rfl
  | cons c s ih =>
    rw [List.flatMap_cons, List.append_assoc, List.reverse_cons, List.append_assoc, List.singleton_append, ← ih]
    by_cases quote : c = '\''
    · -- The quote ends the quoting, stands between double ones, and the quoting begins again.
      subst quote
      rfl
    · rw [quoteChar, if_neg quote, List.singleton_append, wordsFrom, if_neg quote]

theorem wordsFrom_singleQuoted (s rest : List Char) :
    wordsFrom .outside [] (singleQuoted s ++ rest) = wordsFrom .word s.reverse rest := by
  calc wordsFrom .outside [] (singleQuoted s ++ rest)
      = wordsFrom .single [] (s.flatMap quoteChar ++ '\'' :: rest) := by
        rw [singleQuoted, List.cons_append, List.append_assoc]
        rfl
    _ = wordsFrom .single s.reverse ('\'' :: rest) := by rw [wordsFrom_flatMap_quoteChar, List.append_nil]
    _ = wordsFrom .word s.reverse rest := rfl

theorem words_intercalate (words : List (List Char)) :
    Shell.words ([' '].intercalate (words.map singleQuoted)) = .ok words := by
  unfold Shell.words
  induction words with
  | nil => rfl
  | cons word words ih =>
    cases words with
    | nil =>
      have read := wordsFrom_singleQuoted word []
      rw [List.append_nil] at read
      simpa [wordsFrom] using read
    | cons next words =>
      rw [List.map_cons, List.map_cons, List.intercalate_cons_cons, ← List.map_cons, List.append_assoc,
        wordsFrom_singleQuoted, List.singleton_append, wordsFrom, if_pos (by decide), ih, List.reverse_reverse]
      rfl

theorem wordsOf_quotedLine (words : List String) :
    wordsOf (quotedLine words) = .ok (words.filter fun word => !word.isEmpty) := by
  have letters : (quotedLine words).toList = [' '].intercalate ((words.map String.toList).map singleQuoted) := by
    simp [quotedLine, String.toList_intercalate, Function.comp_def]
  have empty (word : String) : word.toList.isEmpty = word.isEmpty := by
    rw [Bool.eq_iff_iff, List.isEmpty_iff, String.toList_eq_nil_iff, String.isEmpty_iff]
  rw [wordsOf, letters, words_intercalate]
  simp [Except.map, List.filter_map, Function.comp_def, empty]

end AsmScope.Shell
