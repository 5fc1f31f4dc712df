import AsmScope.Listing.Kind
import AsmScope.Proofs.Text.Layout
import Mathlib.Data.Option.Basic

/-! The kind of a line is the same in every layout. Each part of the grammar begins at the first character that is
not blank and stops at the next blank, so neither the width of the blanks nor those at the end matter. -/

namespace AsmScope.Listing
open AsmScope.Text

theorem shuns_isWord : Shuns isWord := shuns_of_codes (by decide +kernel)

theorem shuns_isLabelChar : Shuns isLabelChar := shuns_of_codes (by decide +kernel)

theorem shuns_isAssignmentChar : Shuns isAssignmentChar := shuns_of_codes (by decide +kernel)

theorem no_comment_of_isBlank {c : Char} (blank : isBlank c = true) : (c != '#' && c != ';') = true := by
  have other : Shuns fun c => !(c != '#' && c != ';') := shuns_of_codes (by decide +kernel)
  simpa using other c blank

theorem opensComment_iff (s : List Char) :
    opensComment s = true ↔ ['#'] <+: s ∨ ['@'] <+: s ∨ [';'] <+: s ∨ ['/', '/'] <+: s := by
  unfold opensComment
  split
  · simp
  · simp
  · simp
  · simp
  · rename_i hash mark semicolon slashes
    simp only [Bool.false_eq_true, false_iff, not_or]
    exact ⟨fun ⟨r, h⟩ => hash r h.symm, fun ⟨r, h⟩ => mark r h.symm, fun ⟨r, h⟩ => semicolon r h.symm,
      fun ⟨r, h⟩ => slashes r h.symm⟩

theorem opensTrailingComment_iff (s : List Char) :
    opensTrailingComment s = true ↔ ['#'] <+: s ∨ [';'] <+: s ∨ ['/', '/'] <+: s := by
  unfold opensTrailingComment
  split
  · simp
  · simp
  · simp
  · rename_i hash semicolon slashes
    simp only [Bool.false_eq_true, false_iff, not_or]
    exact ⟨fun ⟨r, h⟩ => hash r h.symm, fun ⟨r, h⟩ => semicolon r h.symm, fun ⟨r, h⟩ => slashes r h.symm⟩

theorem pointWord?_cons (c : Char) (r : List Char) :
    pointWord? (c :: r) = if c = '.' then some (r.takeWhile isWord) else none := by
  unfold pointWord?
  split
  · rename_i same
    obtain ⟨rfl, rfl⟩ := List.cons.inj same
    rfl
  · rename_i other
    rw [if_neg fun point => other r (by rw [point])]

theorem isLabelTail_of_oneLine {rest : List Char} (oneLine : '\n' ∉ rest) :
    isLabelTail rest = (rest.all isBlank || opensTrailingComment (dropBlank rest)) := by
  have all : (dropBlank rest).dropLast.all (· != '\n') = true := by
    rw [List.all_eq_true]
    intro c hc
    rw [bne_iff_ne]
    rintro rfl
    exact oneLine ((List.dropWhile_sublist isBlank).subset ((List.dropLast_sublist _).subset hc))
  have empty : (dropBlank rest).isEmpty = rest.all isBlank := by
    rw [Bool.eq_iff_iff, List.isEmpty_iff, dropBlank_eq_nil_iff]
  simp only [isLabelTail, all, empty, Bool.and_true]

theorem mem_of_mem_definition {line rest : List Char} {name : List Char} (h : definition? line = some (name, rest))
    {c : Char} (there : c ∈ rest) : c ∈ line := by
  unfold definition? at h
  split at h
  · cases h
  · rename_i d r begins
    split at h
    · split at h
      · rename_i tail ends
        simp only [Option.some.injEq, Prod.mk.injEq] at h
        obtain ⟨-, rfl⟩ := h
        have inside : c ∈ r.dropWhile isLabelChar := ends ▸ List.mem_cons_of_mem _ there
        have later : c ∈ dropBlank line := begins ▸ List.mem_cons_of_mem _ ((List.dropWhile_sublist _).subset inside)
        exact (List.dropWhile_sublist _).subset later
      · cases h
    · cases h

end AsmScope.Listing

namespace AsmScope.Text.Relaid
open AsmScope.Listing
variable {s t : List Char}

theorem opensComment (h : Relaid s t) : Listing.opensComment t = Listing.opensComment s := by
  rw [Bool.eq_iff_iff, opensComment_iff, opensComment_iff, h.prefix_iff (by decide), h.prefix_iff (by decide),
    h.prefix_iff (by decide), h.prefix_iff (by decide)]

theorem opensTrailingComment (h : Relaid s t) : Listing.opensTrailingComment t = Listing.opensTrailingComment s := by
  rw [Bool.eq_iff_iff, opensTrailingComment_iff, opensTrailingComment_iff, h.prefix_iff (by decide),
    h.prefix_iff (by decide), h.prefix_iff (by decide)]

theorem isLabelTail (h : Relaid s t) (oneLine : '\n' ∉ s) : Listing.isLabelTail t = Listing.isLabelTail s := by
  have oneLine' : '\n' ∉ t := fun there => (h.mem there).elim oneLine (by decide)
  rw [isLabelTail_of_oneLine oneLine, isLabelTail_of_oneLine oneLine', h.all_isBlank, h.dropBlank.opensTrailingComment]

theorem isData (h : Relaid s t) : Listing.isData t = Listing.isData s := by
  have first := h.dropBlank
  unfold Listing.isData
  cases begins : Text.dropBlank s with
  | nil =>
    rw [begins] at first
    rw [first.of_nil]
  | cons c r =>
    rw [begins] at first
    obtain ⟨r', begins', rest⟩ := first.of_visible (isBlank_head_of_dropBlank begins)
    rw [begins', pointWord?_cons, pointWord?_cons, rest.takeWhile shuns_isWord]

theorem startsWithPoint (h : Relaid s t) : Listing.startsWithPoint t = Listing.startsWithPoint s := by
  rw [Listing.startsWithPoint, Listing.startsWithPoint, h.head?_dropBlank]

theorem definition? (h : Relaid s t) :
    Option.Rel (fun a b => b.1 = a.1 ∧ Relaid a.2 b.2) (Listing.definition? s) (Listing.definition? t) := by
  have first := h.dropBlank
  unfold Listing.definition?
  cases begins : Text.dropBlank s with
  | nil =>
    rw [begins] at first
    rw [first.of_nil]
    exact .none
  | cons c r =>
    rw [begins] at first
    obtain ⟨r', begins', rest⟩ := first.of_visible (isBlank_head_of_dropBlank begins)
    rw [begins']
    by_cases starts : isLabelStart c
    · have after := rest.dropWhile shuns_isLabelChar
      simp only [starts, if_true]
      cases ends : r.dropWhile isLabelChar with
      | nil =>
        rw [ends] at after
        rw [after.of_nil]
        exact .none
      | cons d tail =>
        rw [ends] at after
        by_cases colon : d = ':'
        · subst colon
          obtain ⟨tail', ends', rest'⟩ := after.of_visible rfl
          rw [ends']
          exact .some ⟨by rw [rest.takeWhile shuns_isLabelChar], rest'⟩
        · have other : ¬ [':'] <+: r'.dropWhile isLabelChar := by
            rw [after.prefix_iff (by decide)]
            simpa using Ne.symm colon
          split
          · rename_i same
            exact absurd (List.cons.inj same).1 colon
          · split
            · rename_i same
              rw [same] at other
              simp at other
            · exact .none
    · simp only [starts]
      exact .none

theorem label? (h : Relaid s t) : Listing.label? t = Listing.label? s := by
  unfold Listing.label?
  have both := h.definition?
  generalize Listing.definition? s = found, Listing.definition? t = found' at both
  cases both with
  | none => rfl
  | some both => exact congrArg some both.1

/-- A line has its kind in every layout. -/
theorem classify (h : Relaid s t) (oneLine : '\n' ∉ s) : Listing.classify t = Listing.classify s := by
  have both := h.definition?
  have inside := @mem_of_mem_definition s
  have alone : ((Listing.definition? t).any fun d => Listing.isLabelTail d.2) =
      (Listing.definition? s).any fun d => Listing.isLabelTail d.2 := by
    generalize Listing.definition? s = found, Listing.definition? t = found' at both inside
    cases both with
    | none => rfl
    | @some a b both => exact both.2.isLabelTail fun there => oneLine (inside rfl there)
  have defined : (Listing.definition? t).isNone = (Listing.definition? s).isNone := by
    generalize Listing.definition? s = found, Listing.definition? t = found' at both
    cases both <;> rfl
  simp only [Listing.classify, h.all_isBlank, h.dropBlank.opensComment, h.isData, h.startsWithPoint, alone, defined]

theorem isAssignment (h : Relaid s t) : Listing.isAssignment t = Listing.isAssignment s := by
  have first := h.dropBlank
  unfold Listing.isAssignment
  cases begins : Text.dropBlank s with
  | nil =>
    rw [begins] at first
    rw [first.of_nil]
  | cons c r =>
    rw [begins] at first
    obtain ⟨r', begins', rest⟩ := first.of_visible (isBlank_head_of_dropBlank begins)
    simp only [begins', (rest.dropWhile shuns_isAssignmentChar).head?_dropBlank]

theorem afterLabel (h : Relaid s t) : Relaid (Listing.afterLabel s) (Listing.afterLabel t) := by
  have both := h.definition?
  unfold Listing.afterLabel
  generalize Listing.definition? s = found, Listing.definition? t = found' at both
  cases both with
  | none => exact h
  | some both => exact both.2

/-- An opcode is looked for up to a comment, and blanks open none. -/
theorem hasOpcode (h : Relaid s t) : Listing.hasOpcode t = Listing.hasOpcode s := by
  have body := h.afterLabel.takeWhile_through fun _ => no_comment_of_isBlank
  simp only [Listing.hasOpcode, body.isAssignment, body.head?_dropBlank]

end AsmScope.Text.Relaid
