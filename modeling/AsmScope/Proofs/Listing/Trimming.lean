import AsmScope.Listing.View
import AsmScope.Proofs.Listing.Textual
import Mathlib.Data.List.Destutter

/-! Trimming a listing. What has a text beside blanks is kept in its order, and a line is dropped only if it and the
line right above it are blank; a row of octets without an instruction is blank too. Fewer lines stay fewer lines,
although runs of empty lines may come together in one listing and not in the other. A listing is cut before it is
trimmed, so the mark of a cut stays its last line. -/

namespace AsmScope.Listing
open AsmScope.Text

namespace Line

theorem toList_text_trimEnd (l : Line) : l.trimEnd.text.toList = l.text.toList.rdropWhile isBlank := by
  rw [trimEnd, String.toList_ofList, dropBlankEnd_eq_rdropWhile]

theorem isEmpty_text_trimEnd (l : Line) : l.trimEnd.text.isEmpty = l.text.toList.all isBlank := by
  rw [Bool.eq_iff_iff, String.isEmpty_iff, ← String.toList_eq_nil_iff, toList_text_trimEnd,
    List.rdropWhile_eq_nil_iff, List.all_eq_true]

theorem isBlank_of_mem_getLast?_trimEnd (l : Line) : ∀ c ∈ l.trimEnd.text.toList.getLast?, isBlank c = false := by
  intro c last
  rw [toList_text_trimEnd] at last
  obtain ⟨filled, rfl⟩ := List.mem_getLast?_eq_getLast last
  exact Bool.eq_false_iff.mpr (List.rdropWhile_last_not _ _ filled)

theorem trimEnd_trimEnd (l : Line) : l.trimEnd.trimEnd = l.trimEnd := by
  have text : l.trimEnd.trimEnd.text = l.trimEnd.text :=
    String.toList_inj.mp (by rw [toList_text_trimEnd, toList_text_trimEnd, List.rdropWhile_idempotent])
  calc l.trimEnd.trimEnd = { l.trimEnd with text := l.trimEnd.trimEnd.text } := rfl
    _ = l.trimEnd := by rw [text]

end Line

theorem trimFrom_cons (after : Bool) (l : Line) (rest : List Line) :
    trimFrom after (l :: rest) =
      if l.trimEnd.text.isEmpty && after then trimFrom l.trimEnd.text.isEmpty rest
      else l.trimEnd :: trimFrom l.trimEnd.text.isEmpty rest := rfl

theorem mem_trimFrom {after : Bool} {lines : List Line} {l : Line} (h : l ∈ trimFrom after lines) :
    ∃ given ∈ lines, l = given.trimEnd := by
  induction lines generalizing after with
  | nil => cases h
  | cons first rest ih =>
    rw [trimFrom_cons] at h
    split at h
    · obtain ⟨given, there, same⟩ := ih h
      exact ⟨given, List.mem_cons_of_mem _ there, same⟩
    · rcases List.mem_cons.mp h with rfl | h
      · exact ⟨first, List.mem_cons_self .., rfl⟩
      · obtain ⟨given, there, same⟩ := ih h
        exact ⟨given, List.mem_cons_of_mem _ there, same⟩

theorem filter_trimFrom {p : Line → Bool} (filled : ∀ l, p l = true → l.text.isEmpty = false) (after : Bool)
    (lines : List Line) : (trimFrom after lines).filter p = (lines.map Line.trimEnd).filter p := by
  induction lines generalizing after with
  | nil => rfl
  | cons l rest ih =>
    rw [trimFrom_cons, List.map_cons]
    split
    · rename_i dropped
      have unseen : p l.trimEnd = false := by
        by_contra seen
        rw [filled _ (Bool.not_eq_false _ ▸ seen)] at dropped
        cases dropped
      rw [ih, List.filter_cons_of_neg (by simp [unseen])]
    · rw [List.filter_cons, List.filter_cons, ih]

theorem filled_trimLines (lines : List Line) :
    ((trimLines lines).filter fun l => !l.text.isEmpty) =
      (lines.filter fun l => !l.text.toList.all isBlank).map Line.trimEnd := by
  rw [trimLines, filter_trimFrom (by simp), List.filter_map]
  refine congrArg (List.map _) (List.filter_congr fun l _ => ?_)
  rw [Function.comp_apply, l.isEmpty_text_trimEnd]

def NotBothEmpty (a b : Line) : Prop := ¬ (a.text = "" ∧ b.text = "")

instance : DecidableRel NotBothEmpty := fun _ _ => inferInstanceAs (Decidable (¬ _))

theorem notBothEmpty_iff {a b : Line} : NotBothEmpty a b ↔ ¬ (b.text.isEmpty && a.text.isEmpty) = true := by
  rw [NotBothEmpty, Bool.and_eq_true, String.isEmpty_iff, String.isEmpty_iff, and_comm]

/-- Looking at the line right above is looking at the last line that was kept: where the one above was dropped, both
are empty. -/
theorem cons_trimFrom (a : Line) (lines : List Line) :
    a :: trimFrom a.text.isEmpty lines = (lines.map Line.trimEnd).destutter' NotBothEmpty a := by
  induction lines generalizing a with
  | nil => rfl
  | cons l rest ih =>
    rw [trimFrom_cons, List.map_cons]
    split
    · rename_i dropped
      rw [List.destutter'_cons_neg _ (fun apart => notBothEmpty_iff.mp apart dropped), ← ih]
      obtain ⟨here, above⟩ := Bool.and_eq_true_iff.mp dropped
      rw [here, above]
    · rename_i kept
      rw [List.destutter'_cons_pos _ (notBothEmpty_iff.mpr kept), ih]

/-- The blanks at the end of every line go first; then a line stays unless it and the last one that stayed are empty. -/
theorem trimLines_eq_destutter (lines : List Line) :
    trimLines lines = (lines.map Line.trimEnd).destutter NotBothEmpty := by
  cases lines with
  | nil => rfl
  | cons l rest =>
    rw [trimLines, trimFrom_cons, Bool.and_false, if_neg Bool.false_ne_true, cons_trimFrom]
    rfl

/-- The octets of a second row without an instruction are not shown. -/
example : trimLines [⟨" movabs", none, some 0, some [0x48, 0xb8], []⟩, ⟨" ", none, some 2, some [1], []⟩,
      ⟨" ", none, some 3, some [2], []⟩] =
    [⟨" movabs", none, some 0, some [0x48, 0xb8], []⟩, ⟨"", none, some 2, some [1], []⟩] := by decide

theorem map_trimEnd_trimLines (lines : List Line) : (trimLines lines).map Line.trimEnd = trimLines lines := by
  have same : ∀ l ∈ trimLines lines, l.trimEnd = l := by
    intro l there
    obtain ⟨given, -, rfl⟩ := mem_trimFrom there
    exact given.trimEnd_trimEnd
  exact (List.map_congr_left same).trans (List.map_id _)

theorem trimLines_trimLines (lines : List Line) : trimLines (trimLines lines) = trimLines lines := by
  rw [trimLines_eq_destutter (trimLines lines), map_trimEnd_trimLines, trimLines_eq_destutter, List.destutter_idem]

def emptyAfter (after : Bool) (above : List Line) : Bool := above.foldl (fun _ l => l.trimEnd.text.isEmpty) after

theorem trimFrom_append (after : Bool) (above below : List Line) :
    trimFrom after (above ++ below) = trimFrom after above ++ trimFrom (emptyAfter after above) below := by
  induction above generalizing after with
  | nil => rfl
  | cons l rest ih =>
    rw [List.cons_append, trimFrom_cons, trimFrom_cons, ih, emptyAfter, emptyAfter, List.foldl_cons]
    split <;> rfl

theorem trimLines_concat (above : List Line) (l : Line) :
    trimLines (above ++ [l]) =
      trimLines above ++ if l.trimEnd.text.isEmpty && emptyAfter false above then [] else [l.trimEnd] := by
  rw [trimLines, trimFrom_append, trimFrom_cons]
  rfl

theorem getLast?_trimLines_concat (above : List Line) {l : Line} (filled : l.trimEnd.text.isEmpty = false) :
    (trimLines (above ++ [l])).getLast? = some l.trimEnd := by
  rw [trimLines_concat, filled, Bool.false_and, if_neg Bool.false_ne_true, List.getLast?_concat]

def HasPlainGaps (lines : List Line) : Prop := ∀ l ∈ lines, l.trimEnd.text.isEmpty = true → l.trimEnd = plain ""

/-- Without an empty line before, at most the first empty line is there in addition. -/
theorem trimFrom_false_sublist {lines : List Line} (gaps : HasPlainGaps lines) :
    (trimFrom false lines).Sublist (plain "" :: trimFrom true lines) := by
  cases lines with
  | nil => exact List.nil_sublist _
  | cons l rest =>
    rw [trimFrom_cons, trimFrom_cons]
    cases empty : l.trimEnd.text.isEmpty with
    | false => exact (List.Sublist.refl _).cons _
    | true =>
      rw [gaps l (List.mem_cons_self ..) empty]
      exact List.Sublist.refl _

theorem trimFrom_sublist {few many : List Line} (h : few.Sublist many) (gaps : HasPlainGaps many) {after after' : Bool}
    (order : after' = true → after = true) : (trimFrom after few).Sublist (trimFrom after' many) := by
  induction h generalizing after after' with
  | slnil => exact List.Sublist.refl _
  | @cons few many l h ih =>
    have gaps' : HasPlainGaps many := fun m hm => gaps m (List.mem_cons_of_mem _ hm)
    have here := gaps l (List.mem_cons_self ..)
    rw [trimFrom_cons after' l]
    cases empty : l.trimEnd.text.isEmpty with
    | false => exact (ih gaps' (by simp)).cons _
    | true =>
      cases after' with
      | true => exact ih gaps' fun _ => order rfl
      | false =>
        rw [here empty]
        cases after with
        | true => exact (ih gaps' fun _ => rfl).cons _
        | false =>
          have gapsFew : HasPlainGaps few := fun m hm => gaps' m (h.subset hm)
          exact (trimFrom_false_sublist gapsFew).trans ((ih gaps' fun _ => rfl).cons_cons _)
  | @cons_cons few many l h ih =>
    have gaps' : HasPlainGaps many := fun m hm => gaps m (List.mem_cons_of_mem _ hm)
    rw [trimFrom_cons after l, trimFrom_cons after' l]
    cases empty : l.trimEnd.text.isEmpty with
    | false => exact (ih gaps' id).cons_cons _
    | true =>
      cases after with
      | false =>
        obtain rfl : after' = false := by
          cases after' with
          | false => rfl
          | true => exact absurd (order rfl) (by decide)
        exact (ih gaps' id).cons_cons _
      | true =>
        cases after' with
        | false => exact (ih gaps' id).cons _
        | true => exact ih gaps' id

theorem trimLines_sublist {few many : List Line} (h : few.Sublist many) (gaps : HasPlainGaps many) :
    (trimLines few).Sublist (trimLines many) := trimFrom_sublist h gaps id

theorem annotated_trim (view : View) (f : Filters) (trim : Bool) (lines : List (List Char)) :
    annotated view { f with trim } lines = annotated view f lines := by
  -- Each set of filters hides all that the other one hides.
  have more : HidesMore f { f with trim } := ⟨id, id, id⟩
  have less : HidesMore { f with trim } f := ⟨id, id, id⟩
  have same : textual view.primary { f with trim } lines = textual view.primary f lines :=
    (textual_sublist more view.primary lines).antisymm (textual_sublist less view.primary lines)
  rw [annotated, annotated, same]

section Listed
variable {view : View} {f : Filters} {text : String} (several : isNotice (listingLines text.toList) = false)
include several

theorem ofText_eq_trimLines (trim : f.trim = true) :
    ofText view f text = trimLines (ofText view { f with trim := false } text) := by
  unfold ofText
  split
  · rfl
  · simp [ofLines, several, trim, annotated_trim]

theorem ofText_eq_cutTo (untrimmed : f.trim = false) {n : Int} (limit : view.maxLines = some n) (natural : 0 ≤ n) :
    ofText view f text = cutTo n (ofText { view with maxLines := none } f text) := by
  unfold ofText
  split
  · -- A text without lines is not cut, as no number of lines to keep is below zero.
    exact (if_neg (by simpa using natural)).symm
  · simp [ofLines, several, untrimmed, limited, limit, annotated]

end Listed

/-- Trimming after a cut loses no text. In a trimmed listing no text ends in a blank and no two neighbours are empty.
The lines with a text are, in order, those of the listing that is not trimmed whose texts are not all blank, each
without the blanks at its end and with all else that it had. Trimming again changes nothing, and the mark of a cut is
the last line wherever there are more lines than the limit. -/
theorem trimmed_after_cut (view : View) {f : Filters} (trim : f.trim = true) {text : String}
    (several : isNotice (listingLines text.toList) = false) :
    (∀ l ∈ ofText view f text, ∀ c ∈ l.text.toList.getLast?, isBlank c = false) ∧
    (ofText view f text).IsChain NotBothEmpty ∧
    (ofText view f text).filter (fun l => !l.text.isEmpty) =
      ((ofText view { f with trim := false } text).filter fun l => !l.text.toList.all isBlank).map
        (fun l => { l with text := String.ofList (l.text.toList.rdropWhile isBlank) }) ∧
    trimLines (ofText view f text) = ofText view f text ∧
    ∀ n : Int, 0 ≤ n → view.maxLines = some n →
      n < (ofText { view with maxLines := none } { f with trim := false } text).length →
        (ofText view f text).getLast? = some truncationMark := by
  rw [ofText_eq_trimLines several trim]
  refine ⟨fun l there => ?_, ?_, filled_trimLines _, trimLines_trimLines _, fun n natural limit many => ?_⟩
  · obtain ⟨given, -, rfl⟩ := mem_trimFrom there
    exact given.isBlank_of_mem_getLast?_trimEnd
  · rw [trimLines_eq_destutter]
    exact List.isChain_destutter _ _
  · rw [ofText_eq_cutTo several rfl limit natural, cutTo, if_pos many]
    exact getLast?_trimLines_concat _ rfl

def gappedText : String := "\n \n\tret  \n\t\n\n\tnop \n\tnop\n"

theorem trimmed_after_cut_gappedText :
    isNotice (listingLines gappedText.toList) = false ∧ (6 : Int) < (ofText {} {} gappedText).length ∧
    (ofText { maxLines := some 6 } { trim := true } gappedText).filter (fun l => !l.text.isEmpty) =
      [plain "        ret", plain "        nop", truncationMark] ∧
    (ofText { maxLines := some 6 } { trim := true } gappedText).IsChain NotBothEmpty ∧
    (ofText { maxLines := some 6 } { trim := true } gappedText).getLast? = some truncationMark := by
  have several : isNotice (listingLines gappedText.toList) = false := by decide
  have many : (6 : Int) < (ofText {} {} gappedText).length := by decide
  obtain ⟨-, apart, filled, -, last⟩ := trimmed_after_cut { maxLines := some 6 } (f := { trim := true }) rfl several
  exact ⟨several, many, filled.trans (by decide), apart, last 6 (by decide) rfl many⟩

end AsmScope.Listing
