import AsmScope.Text.Lines
import Mathlib.Data.List.Induction

/-! The lines of a listing. None of them has a line feed inside, and lines that were put together with line feeds
between them are found again. -/

namespace AsmScope.Text

theorem not_mem_of_mem_splitOn {mark : Char} {s piece : List Char} (h : piece ∈ s.splitOn mark) : mark ∉ piece := by
  induction s generalizing piece with
  | nil =>
    rw [List.splitOn_nil, List.mem_singleton] at h
    subst h
    exact List.not_mem_nil
  | cons c s ih =>
    rw [List.splitOn_cons_eq_if_modifyHead] at h
    split at h
    · rcases List.mem_cons.mp h with rfl | h
      · exact List.not_mem_nil
      · exact ih h
    · rename_i other
      cases pieces : s.splitOn mark with
      | nil => exact absurd pieces (List.splitOn_ne_nil _ _)
      | cons first rest =>
        rw [pieces] at h ih
        rcases List.mem_cons.mp h with rfl | h
        · rw [List.mem_cons, not_or]
          exact ⟨fun same => other (by simp [← same]), ih (List.mem_cons_self ..)⟩
        · exact ih (List.mem_cons_of_mem _ h)

theorem dropReturn_subset (s : List Char) : dropReturn s ⊆ s := by
  unfold dropReturn
  split
  · exact (List.dropLast_sublist s).subset
  · exact List.Subset.refl s

theorem newline_not_mem {s line : List Char} (h : line ∈ listingLines s) : '\n' ∉ line := by
  rcases List.mem_append.mp h with h | h
  · obtain ⟨piece, hpiece, rfl⟩ := List.mem_map.mp h
    exact fun there => not_mem_of_mem_splitOn ((List.dropLast_sublist _).subset hpiece) (dropReturn_subset piece there)
  · split at h
    · cases h
    · rename_i last
      rw [List.mem_singleton.mp h, List.getLastD_eq_getLast?] at *
      cases found : (s.splitOn '\n').getLast? with
      | none => exact List.not_mem_nil
      | some piece => exact not_mem_of_mem_splitOn (List.mem_of_getLast? found)

theorem listingLines_intercalate {lines : List (List Char)} (oneLine : ∀ line ∈ lines, '\n' ∉ line)
    (filled : ∀ line ∈ lines, line ≠ []) (ended : ∀ line ∈ lines, line.getLast? ≠ some '\r') :
    listingLines (List.intercalate ['\n'] lines) = lines := by
  induction lines using List.reverseRecOn with
  | nil => rfl
  | append_singleton before last _ =>
    have pieces := List.splitOn_intercalate '\n' oneLine (by simp)
    have kept : before.map dropReturn = before := by
      refine (List.map_congr_left fun line hline => ?_).trans (List.map_id _)
      exact if_neg (ended line (List.mem_append_left _ hline))
    have some : last.isEmpty = false :=
      List.isEmpty_eq_false_iff.mpr (filled last (List.mem_append_right _ (List.mem_singleton_self _)))
    simp [listingLines, pieces, kept, some]

end AsmScope.Text
