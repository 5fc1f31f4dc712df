import AsmScope.Proofs.Text.Layout
import AsmScope.Proofs.Text.Replacing
import AsmScope.Text.Lines

/-! Texts with holes in which a name stands. A name without blanks is a part of one line and is not trimmed, so cutting
into lines and trimming can be done before the holes are filled; and where the name is found in its holes only,
replacing it fills them with something else. -/

namespace AsmScope.Text

theorem infix_of_dropWhile {α : Type} (p : α → Bool) (l : List α) :
    ((l.dropWhile p).reverse.dropWhile p).reverse <:+: l := by
  have ending := (l.dropWhile p).reverse.dropWhile_suffix p
  rw [← List.reverse_prefix, List.reverse_reverse] at ending
  exact ending.isInfix.trans (l.dropWhile_suffix p).isInfix

theorem trim_isInfix (s : List Char) : trim s <:+: s := infix_of_dropWhile isBlank s

theorem isBlank_of_isLineEnd {c : Char} (h : isLineEnd c = true) : isBlank c = true := by
  simp only [isLineEnd, isBlank, Bool.or_eq_true, Bool.and_eq_true, decide_eq_true_eq, beq_iff_eq] at h ⊢
  omega

theorem allLinesFrom_cons {c : Char} {s line : List Char} (single : ¬ (c = '\r' ∧ s.head? = some '\n')) :
    allLinesFrom (c :: s) line =
      if isLineEnd c then line.reverse :: allLinesFrom s [] else allLinesFrom s (c :: line) := by
  refine allLinesFrom.eq_3 line c s ?_
  rintro r rfl rfl
  exact single ⟨rfl, rfl⟩

theorem allLinesFrom_append {part : List Char} (visible : ∀ c ∈ part, isBlank c = false) (s line : List Char) :
    allLinesFrom (part ++ s) line = allLinesFrom s (part.reverse ++ line) := by
  induction part generalizing line with
  | nil => rfl
  | cons c part ih =>
    obtain ⟨first, rest⟩ := List.forall_mem_cons.mp visible
    have single : ¬ (c = '\r' ∧ (part ++ s).head? = some '\n') := by
      rintro ⟨rfl, -⟩
      cases first
    have inside : ¬ isLineEnd c = true := fun ends => by simp [isBlank_of_isLineEnd ends] at first
    rw [List.cons_append, allLinesFrom_cons single, if_neg inside, ih rest, List.reverse_cons, List.append_assoc]
    rfl

/-- What can be the name of a file in messages: something, with no blank in it. -/
structure IsName (name : List Char) : Prop where
  filled : name ≠ []
  visible : ∀ c ∈ name, isBlank c = false

theorem IsName.reverse {name : List Char} (h : IsName name) : IsName name.reverse where
  filled := by simpa using h.filled
  visible c hc := h.visible c (List.mem_reverse.mp hc)

instance (name : List Char) : Decidable (IsName name) :=
  decidable_of_iff (name.isEmpty = false ∧ name.any isBlank = false) <| by
    simp only [List.isEmpty_eq_false_iff, List.any_eq_false, Bool.not_eq_true]
    exact ⟨fun h => ⟨h.1, h.2⟩, fun h => ⟨h.filled, h.visible⟩⟩

/-- Letters, and holes between them. -/
abbrev Template := List (Option Char)

namespace Template
variable {name new : List Char} {t u v : Template} {c : Char}

def fill (name : List Char) (t : Template) : List Char := t.flatMap fun letter => letter.elim name fun c => [c]

@[simp] theorem fill_nil : fill name [] = [] := rfl

@[simp] theorem fill_hole : fill name (none :: t) = name ++ fill name t := rfl

@[simp] theorem fill_letter : fill name (some c :: t) = c :: fill name t := rfl

@[simp] theorem fill_append : fill name (t ++ u) = fill name t ++ fill name u := List.flatMap_append

theorem reverse_fill : (fill name t).reverse = fill name.reverse t.reverse := by
  induction t with
  | nil => rfl
  | cons letter t ih => cases letter <;> simp [ih]

theorem fill_eq_nil_iff (filled : name ≠ []) : fill name t = [] ↔ t = [] := by
  cases t with
  | nil => simp
  | cons letter t => cases letter <;> simp [filled]

def OnlyInHoles (name : List Char) (t : Template) : Prop :=
  ∀ before after, fill name t = before ++ name ++ after → ∃ u v, t = u ++ none :: v ∧ fill name u = before

theorem onlyInHoles_iff : OnlyInHoles name t ↔ ∀ i < (fill name t).length + 1, name <+: (fill name t).drop i →
    ∃ j < t.length, t[j]? = some none ∧ fill name (t.take j) = (fill name t).take i := by
  constructor
  · rintro only i - ⟨after, found⟩
    have parts : fill name t = (fill name t).take i ++ name ++ after := by
      rw [List.append_assoc, found, List.take_append_drop]
    obtain ⟨u, v, whole, before⟩ := only _ _ parts
    refine ⟨u.length, by simp [whole], by simp [whole], ?_⟩
    rw [← before, whole, List.take_left]
  · intro places before after filled
    have inside : before.length < (fill name t).length + 1 := by
      rw [filled]
      simp only [List.length_append]
      omega
    obtain ⟨j, there, hole, same⟩ := places before.length inside ⟨after, by simp [filled]⟩
    refine ⟨t.take j, t.drop (j + 1), ?_, by simpa [filled] using same⟩
    rw [List.getElem?_eq_getElem there, Option.some_inj] at hole
    rw [← hole, List.getElem_cons_drop, List.take_append_drop]

instance : Decidable (OnlyInHoles name t) := decidable_of_iff' _ onlyInHoles_iff

/-- The name is found in its holes only. -/
structure Marks (name : List Char) (t : Template) : Prop extends IsName name where
  only : OnlyInHoles name t

instance : Decidable (Marks name t) :=
  decidable_of_iff (IsName name ∧ OnlyInHoles name t) ⟨fun h => ⟨h.1, h.2⟩, fun h => ⟨h.toIsName, h.only⟩⟩

namespace OnlyInHoles

theorem left (only : OnlyInHoles name (t ++ u)) (filled : name ≠ []) : OnlyInHoles name t := by
  intro before after found
  obtain ⟨w, v, whole, same⟩ := only before (after ++ fill name u) (by simp [found])
  rcases List.append_eq_append_iff.mp whole with ⟨x, rfl, -⟩ | ⟨x, rfl, rest⟩
  -- A hole behind the part would leave no room for the name within the part.
  · simp [found, filled] at same
  · cases x with
    | nil => simp [← same, filled] at found
    | cons letter x =>
      obtain ⟨rfl, -⟩ := List.cons_eq_cons.mp rest
      exact ⟨w, x, rfl, same⟩

theorem right (only : OnlyInHoles name (u ++ t)) (filled : name ≠ []) : OnlyInHoles name t := by
  intro before after found
  obtain ⟨w, v, whole, same⟩ := only (fill name u ++ before) after (by simp [found])
  rcases List.append_eq_append_iff.mp whole with ⟨x, rfl, rest⟩ | ⟨x, rfl, rest⟩
  · exact ⟨x, v, rest, by simpa using same⟩
  · cases x with
    | nil => exact ⟨[], v, rest.symm, by simpa using same⟩
    | cons letter x =>
      obtain ⟨rfl, -⟩ := List.cons_eq_cons.mp rest
      simp [filled] at same

end OnlyInHoles

theorem Marks.of_infix (marks : Marks name t) (part : u <:+: t) : Marks name u := by
  obtain ⟨before, after, rfl⟩ := part
  exact ⟨marks.toIsName, (marks.only.left marks.filled).right marks.filled⟩

theorem replaceAll_fill (filled : name ≠ []) (only : OnlyInHoles name t) :
    replaceAll name new (fill name t) = fill new t := by
  induction t with
  | nil => exact replaceAll_nil
  | cons letter t ih =>
    have rest := ih (only.right (u := [letter]) filled)
    cases letter with
    | none => rw [fill_hole, replaceAll_append filled, rest, fill_hole]
    | some c =>
      have elsewhere : ¬ name <+: c :: fill name t := by
        rintro ⟨after, found⟩
        obtain ⟨u, v, whole, before⟩ := only [] after (by simp [found])
        rw [(fill_eq_nil_iff filled).mp before, List.nil_append] at whole
        cases whole
      rw [fill_letter, replaceAll_cons elsewhere, rest, fill_letter]

section Trimming

def trim (t : Template) : Template :=
  ((t.dropWhile (Option.any isBlank)).reverse.dropWhile (Option.any isBlank)).reverse

theorem dropBlank_fill (isName : IsName name) (t : Template) :
    dropBlank (fill name t) = fill name (t.dropWhile (Option.any isBlank)) := by
  induction t with
  | nil => rfl
  | cons letter t ih =>
    cases letter with
    | none =>
      obtain ⟨c, r, rfl⟩ := List.exists_cons_of_ne_nil isName.filled
      simp [dropBlank_cons, isName.visible c (List.mem_cons_self ..)]
    | some c =>
      rw [fill_letter, dropBlank_cons, List.dropWhile_cons, Option.any_some]
      split
      · exact ih
      · rfl

theorem trim_fill (isName : IsName name) (t : Template) :
    Text.trim (fill name t) = fill name t.trim := by
  have ending := dropBlank_fill isName.reverse (t.dropWhile (Option.any isBlank)).reverse
  rw [dropBlank] at ending
  rw [Text.trim, dropBlankEnd, dropBlank_fill isName, reverse_fill, ending, reverse_fill, List.reverse_reverse]
  rfl

theorem trim_isInfix (t : Template) : t.trim <:+: t := infix_of_dropWhile (Option.any isBlank) t

end Trimming

section Lines

/-- The second argument is the line being read, last letter first. -/
def linesFrom : Template → Template → List Template
  | [], line => if line.isEmpty then [] else [line.reverse]
  | some '\r' :: some '\n' :: r, line => line.reverse :: linesFrom r []
  | letter :: r, line =>
    if letter.any isLineEnd then line.reverse :: linesFrom r [] else linesFrom r (letter :: line)

/-- The lines of a template, when no hole ends a line. -/
def lines (t : Template) : List Template := linesFrom t []

theorem head?_fill_ne (isName : IsName name)
    (other : ∀ r, t ≠ some '\n' :: r) : (fill name t).head? ≠ some '\n' := by
  obtain ⟨c, r, rfl⟩ := List.exists_cons_of_ne_nil isName.filled
  cases t with
  | nil => simp
  | cons letter t =>
    cases letter with
    | none =>
      rintro same
      cases Option.some.inj same
      cases isName.visible '\n' (List.mem_cons_self ..)
    | some d =>
      rintro same
      cases Option.some.inj same
      exact other t rfl

/-- A line end that is one letter of the template is one of the filled text: a hole does not begin with a line feed. -/
theorem allLinesFrom_letter (isName : IsName name)
    (single : ∀ r, c = '\r' → t ≠ some '\n' :: r) (line : List Char) :
    allLinesFrom (fill name (some c :: t)) line =
      if isLineEnd c then line.reverse :: allLinesFrom (fill name t) [] else allLinesFrom (fill name t) (c :: line) :=
  allLinesFrom_cons fun ⟨first, second⟩ => head?_fill_ne isName (fun r => single r first) second

theorem allLinesFrom_fill (isName : IsName name) (t line : Template) :
    allLinesFrom (fill name t) (fill name.reverse line) = (linesFrom t line).map (fill name) := by
  have back (line : Template) : (fill name.reverse line).reverse = fill name line.reverse := by
    rw [reverse_fill, List.reverse_reverse]
  fun_induction linesFrom t line with
  | case1 line nothing =>
    rw [List.isEmpty_iff.mp nothing]
    rfl
  | case2 line something =>
    have something : (fill name.reverse line).isEmpty = false := by
      rw [List.isEmpty_eq_false_iff, ne_eq, fill_eq_nil_iff isName.reverse.filled, ← List.isEmpty_iff]
      exact something
    simp [allLinesFrom, something, back]
  | case3 r line ih =>
    rw [fill_letter, fill_letter, allLinesFrom, back, List.map_cons]
    exact congrArg _ ih
  | case4 letter r line other ended ih =>
    cases letter with
    | none => cases ended
    | some c =>
      have single : ∀ s, c = '\r' → r ≠ some '\n' :: s := fun s first => other s (congrArg some first)
      rw [Option.any_some] at ended
      rw [allLinesFrom_letter isName single, if_pos ended, back, List.map_cons]
      exact congrArg _ ih
  | case5 letter r line other unended ih =>
    cases letter with
    | none =>
      rw [fill_hole, allLinesFrom_append isName.visible]
      exact ih
    | some c =>
      have single : ∀ s, c = '\r' → r ≠ some '\n' :: s := fun s first => other s (congrArg some first)
      rw [allLinesFrom_letter isName single, if_neg (by simpa using unended)]
      exact ih

theorem allLines_fill (isName : IsName name) (t : Template) :
    allLines (fill name t) = t.lines.map (fill name) := allLinesFrom_fill isName t []

theorem infix_of_mem_linesFrom {line : Template} (h : u ∈ linesFrom t line) : u <:+: line.reverse ++ t := by
  fun_induction linesFrom t line with
  | case1 line nothing => cases h
  | case2 line something =>
    obtain rfl := List.mem_singleton.mp h
    exact ⟨[], [], by simp⟩
  | case3 r line ih =>
    rcases List.mem_cons.mp h with rfl | h
    · exact (List.prefix_append _ _).isInfix
    · exact (ih h).trans ⟨line.reverse ++ [some '\r', some '\n'], [], by simp⟩
  | case4 letter r line other ended ih =>
    rcases List.mem_cons.mp h with rfl | h
    · exact (List.prefix_append _ _).isInfix
    · exact (ih h).trans ⟨line.reverse ++ [letter], [], by simp⟩
  | case5 letter r line other unended ih => simpa using ih h

theorem infix_of_mem_lines (h : u ∈ t.lines) : u <:+: t := infix_of_mem_linesFrom h

end Lines

end Template
end AsmScope.Text
