import AsmScope.Proofs.Listing.Places
import AsmScope.Proofs.Listing.References

/-! Lines of a label and a comment. What opens a comment on a line of its own opens one after a label as well, but for
the at sign: a label before such a comment is taken for a label with an instruction, though it has none. -/

namespace AsmScope.Listing
open AsmScope.Text

theorem isBlank_of_isLabelStart {c : Char} (starts : isLabelStart c = true) : isBlank c = false := by
  have shuns : Shuns isLabelStart := shuns_of_codes (by decide +kernel)
  by_contra blank
  rw [shuns c (Bool.not_eq_false _ ▸ blank)] at starts
  cases starts

theorem opensComment_of_isLabelStart {c : Char} (starts : isLabelStart c = true) (r : List Char) :
    opensComment (c :: r) = false := by
  rw [Bool.eq_false_iff, ne_eq, opensComment_iff]
  rintro (opens | opens | opens | opens) <;> obtain rfl := (List.cons_prefix_cons.mp opens).1 <;> cases starts

theorem head?_isAsciiLetter_of_said {s : List Char} (said : s.all isBlank = true ∨ opensComment (dropBlank s) = true) :
    ((dropBlank s).takeWhile fun c => c != '#' && c != ';').head?.any isAsciiLetter = false := by
  rcases said with blank | comment
  · rw [dropBlank_eq_nil_iff.mpr blank]
    rfl
  · rcases (opensComment_iff _).mp comment with ⟨r, same⟩ | ⟨r, same⟩ | ⟨r, same⟩ | ⟨r, same⟩ <;>
      simp [← same, isAsciiLetter]

section Labelled
variable {name gap tail : List Char} (label : IsLabelName name) (blank : gap.all isBlank = true)
include label blank

theorem dropBlank_labelled : dropBlank (gap ++ name ++ ':' :: tail) = name ++ ':' :: tail := by
  obtain ⟨c, r, rfl, starts, -⟩ := label
  rw [dropBlank, List.append_assoc, List.dropWhile_append_of_pos (List.all_eq_true.mp blank)]
  exact List.dropWhile_cons_of_neg (by rw [isBlank_of_isLabelStart starts]; exact Bool.false_ne_true)

theorem definition?_labelled : definition? (gap ++ name ++ ':' :: tail) = some (name, tail) := by
  rw [definition?, dropBlank_labelled label blank]
  obtain ⟨c, r, rfl, starts, reads⟩ := label
  have ends : ∀ d ∈ (':' :: tail).head?, isLabelChar d = false := by simpa using by decide
  simp only [List.cons_append, starts, if_true, dropWhile_run reads ends, takeWhile_run reads ends]

/-- Whether data follows a point is told by the name alone. -/
theorem isData_labelled : isData (gap ++ name ++ ':' :: tail) = isData name := by
  have whole : dropBlank name = name := by
    obtain ⟨c, r, rfl, starts, -⟩ := label
    rw [dropBlank_cons, isBlank_of_isLabelStart starts, if_neg Bool.false_ne_true]
  rw [isData, isData, dropBlank_labelled label blank, whole]
  obtain ⟨c, r, rfl, starts, -⟩ := label
  -- The colon is in no word, so a word of the name does not go on behind it.
  have stops : (r ++ ':' :: tail).takeWhile isWord = r.takeWhile isWord := by
    rw [List.takeWhile_append, List.takeWhile_cons_of_neg (by decide), List.append_nil]
    split
    · rename_i whole
      exact ((List.takeWhile_prefix isWord).eq_of_length whole).symm
    · rfl
  rw [List.cons_append, pointWord?_cons, pointWord?_cons, stops]

theorem hasOpcode_labelled (said : tail.all isBlank = true ∨ opensComment (dropBlank tail) = true) :
    hasOpcode (gap ++ name ++ ':' :: tail) = false := by
  have after : afterLabel (gap ++ name ++ ':' :: tail) = tail := by
    rw [afterLabel, definition?_labelled label blank]
    rfl
  simp only [hasOpcode, after, dropBlank_takeWhile fun _ => no_comment_of_isBlank,
    head?_isAsciiLetter_of_said said, Bool.and_false]

theorem classify_labelled :
    classify (gap ++ name ++ ':' :: tail) =
      if isLabelTail tail then .label else if isData name then .data else .instruction := by
  have colon : isBlank ':' = false := rfl
  have visible : (gap ++ name ++ ':' :: tail).all isBlank = false := by simp [colon]
  have plain : opensComment (dropBlank (gap ++ name ++ ':' :: tail)) = false := by
    rw [dropBlank_labelled label blank]
    obtain ⟨c, r, rfl, starts, -⟩ := label
    exact opensComment_of_isLabelStart starts _
  simp only [classify, visible, plain, definition?_labelled label blank, isData_labelled label blank, Option.any_some,
    Option.isNone_some, Bool.and_false, Bool.false_eq_true, if_false]

end Labelled

/-- A line of its own that is blank or a comment may follow a label, unless it is a comment with an at sign. -/
theorem isLabelTail_of_said {tail : List Char} (oneLine : '\n' ∉ tail)
    (said : tail.all isBlank = true ∨ opensComment (dropBlank tail) = true) :
    isLabelTail tail = true ↔ (dropBlank tail).head? ≠ some '@' := by
  rw [isLabelTail_of_oneLine oneLine, Bool.or_eq_true]
  rcases said with blank | comment
  · rw [dropBlank_eq_nil_iff.mpr blank]
    simp [blank]
  · rcases (opensComment_iff _).mp comment with ⟨r, same⟩ | ⟨r, same⟩ | ⟨r, same⟩ | ⟨r, same⟩
    all_goals rw [← dropBlank_eq_nil_iff, ← same]; simp [opensTrailingComment]

/-- A name, its colon and what is blank or a comment on a line of its own: the name is the label of the line, and the
line has no opcode. It is a label line unless the comment is opened by an at sign; then it is data if the name is that
of data, and else an instruction. -/
theorem classify_label_comment {name gap tail : List Char} (label : IsLabelName name) (blank : gap.all isBlank = true)
    (oneLine : '\n' ∉ tail) (said : classify tail = .blank ∨ classify tail = .comment) :
    classify (gap ++ name ++ ':' :: tail) =
      (if (dropBlank tail).head? ≠ some '@' then .label else if isData name then .data else .instruction) ∧
    label? (gap ++ name ++ ':' :: tail) = some name ∧ hasOpcode (gap ++ name ++ ':' :: tail) = false := by
  have said' : tail.all isBlank = true ∨ opensComment (dropBlank tail) = true :=
    said.imp (classify_eq_blank_iff tail).mp opensComment_of_classify
  refine ⟨?_, ?_, hasOpcode_labelled label blank said'⟩
  · simp only [classify_labelled label blank, isLabelTail_of_said oneLine said']
  · rw [label?, definition?_labelled label blank]
    rfl

theorem isLabelName_local : IsLabelName ".L3".toList := ⟨'.', "L3".toList, rfl, by decide, List.all_eq_true.mp (by decide)⟩

theorem classify_label_comment_slashes :
    IsLabelName ".L3".toList ∧ "\t".toList.all isBlank = true ∧ '\n' ∉ " // mov".toList ∧
    (classify " // mov".toList = .blank ∨ classify " // mov".toList = .comment) ∧
    classify "\t.L3: // mov".toList = .label ∧ label? "\t.L3: // mov".toList = some ".L3".toList ∧
    hasOpcode "\t.L3: // mov".toList = false := by
  have oneLine : '\n' ∉ " // mov".toList := by decide
  have said : classify " // mov".toList = .blank ∨ classify " // mov".toList = .comment := .inr (by decide)
  obtain ⟨kind, named, plain⟩ :=
    @classify_label_comment ".L3".toList "\t".toList " // mov".toList isLabelName_local (by decide) oneLine said
  exact ⟨isLabelName_local, by decide, oneLine, said, kind.trans (by decide), named, plain⟩

/-- An at sign opens a comment on a line of its own and none after a label. -/
theorem label_lost_to_at_sign :
    IsLabelName ".L3".toList ∧ '\n' ∉ " @ entry".toList ∧ classify " @ entry".toList = .comment ∧
    classify ".L3: @ entry".toList = .instruction ∧ classify ".L3: @ entry".toList ≠ .label :=
  ⟨isLabelName_local, by decide, by decide, by decide, by decide⟩

end AsmScope.Listing
