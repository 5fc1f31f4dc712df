import AsmScope.Listing.Trace
import AsmScope.Proofs.Text.Layout
import AsmScope.Proofs.Text.Numeral

/-! What a record of a trace holds, read from one line. Its file is named, its line is a number, its opcode is written
in capitals, and its operands end in something visible, so that its instruction is a line of its own. -/

namespace AsmScope.Trace
open AsmScope.Text

structure Record.IsSound (r : Record) : Prop where
  named : r.file ≠ []
  fileOneLine : '\n' ∉ r.file
  numbered : r.line ≠ []
  digits : ∀ c ∈ r.line, isAsciiDigit c = true
  called : r.opcode ≠ []
  capitals : ∀ c ∈ r.opcode, isCapital c = true
  operandsOneLine : '\n' ∉ r.operands
  visibleEnd : ∀ c ∈ r.operands.getLast?, isBlank c = false

theorem place?_eq_some {s file line rest : List Char} (h : place? s = some (file, line, rest)) :
    s = '(' :: (file ++ ':' :: (line ++ ')' :: rest)) ∧ file ≠ [] ∧ line ≠ [] ∧ ∀ c ∈ line, isAsciiDigit c = true := by
  unfold place? at h
  split at h
  · rename_i r
    simp only at h
    split at h
    · rename_i r' colon
      split at h
      · rename_i r'' close
        split at h
        · cases h
        · rename_i filled
          simp only [Option.some.injEq, Prod.mk.injEq] at h
          obtain ⟨rfl, rfl, rfl⟩ := h
          simp only [Bool.or_eq_true, List.isEmpty_iff, not_or] at filled
          refine ⟨?_, filled.1, filled.2, fun c hc => List.mem_takeWhile_imp hc⟩
          rw [← close, List.takeWhile_append_dropWhile, ← colon, List.takeWhile_append_dropWhile]
      · cases h
    · cases h
  · cases h

theorem getLast?_trim {s : List Char} {c : Char} (h : c ∈ (trim s).getLast?) : isBlank c = false := by
  unfold trim dropBlankEnd at h
  rw [List.getLast?_reverse] at h
  cases begins : (dropBlank s).reverse.dropWhile isBlank with
  | nil =>
    rw [begins] at h
    cases h
  | cons d r =>
    rw [begins] at h
    obtain rfl : d = c := by simpa using h
    exact isBlank_head_of_dropBlank begins

theorem trim_subset (s : List Char) : trim s ⊆ s := fun _ h =>
  (List.dropWhile_sublist isBlank).subset (mem_of_mem_dropBlankEnd h)

/-- What is read from one line is sound. The operands end where the trimmed line does, so nothing blank is last. -/
theorem record?_sound {text : List Char} {r : Record} (h : record? text = some r) (oneLine : '\n' ∉ text) :
    r.IsSound := by
  simp only [record?, Option.bind_eq_bind] at h
  split at h
  · cases h
  · obtain ⟨⟨file, line, rest⟩, placed, h⟩ := Option.bind_eq_some_iff.mp h
    simp only at h
    split at h
    · cases h
    · rename_i called
      obtain rfl := Option.some.inj h
      obtain ⟨begins, named, numbered, digits⟩ := place?_eq_some placed
      -- All that was read is a tail of the trimmed text.
      have tail : '(' :: (file ++ ':' :: (line ++ ')' :: rest)) <:+ trim text := by
        rw [← begins]
        exact (List.dropWhile_suffix _).trans (List.dropWhile_suffix _)
      have later : rest <:+ trim text := by
        refine List.IsSuffix.trans ?_ tail
        exact ⟨'(' :: (file ++ ':' :: (line ++ [')'])), by simp⟩
      have inside : (dropBlank rest).dropWhile isCapital <:+ trim text :=
        ((List.dropWhile_suffix _).trans (List.dropWhile_suffix _)).trans later
      have whole : ((dropBlank rest).dropWhile isCapital).takeWhile (· != '\n') =
          (dropBlank rest).dropWhile isCapital := by
        rw [List.takeWhile_eq_self_iff]
        intro c hc
        rw [bne_iff_ne]
        rintro rfl
        exact oneLine (trim_subset text (inside.subset hc))
      refine ⟨named, fun there => ?_, numbered, digits, by simpa using called,
        fun c hc => List.mem_takeWhile_imp hc, fun there => ?_, fun c hc => ?_⟩
      · exact oneLine (trim_subset text (tail.subset (by simp [there])))
      · simp only [whole] at there
        exact oneLine (trim_subset text (inside.subset there))
      · simp only [whole] at hc
        refine getLast?_trim (s := text) ?_
        obtain ⟨before, same⟩ := inside
        rw [← same, List.getLast?_append, Option.mem_def.mp hc]
        rfl

end AsmScope.Trace
