import AsmScope.Text.Find
import Mathlib.Data.List.Basic

/-! Replacing in one pass from the left. What is replaced, and what is kept because nothing to be replaced begins there,
makes up the whole text; and if what is put in begins and ends with characters that the replaced part does not have,
that part is found nowhere in the outcome, not even across the places where old and new text meet. -/

namespace AsmScope.Text
variable {old new s t w a b inner : List Char} {c x y : Char}

theorem replaceFrom_append (old new passed s : List Char) :
    replaceFrom old new passed.length (passed ++ s) = replaceFrom old new 0 s := by
  induction passed with
  | nil => rfl
  | cons c passed ih => simpa only [List.length_cons, List.cons_append, replaceFrom] using ih

theorem replaceAll_nil : replaceAll old new [] = [] := by
  rw [replaceAll]
  split <;> rfl

theorem replaceAll_empty : replaceAll [] new s = s := rfl

theorem replaceAll_append (filled : old ≠ []) : replaceAll old new (old ++ s) = new ++ replaceAll old new s := by
  obtain ⟨c, r, rfl⟩ := List.exists_cons_of_ne_nil filled
  have begins : (c :: r).isPrefixOf (c :: (r ++ s)) = true :=
    List.isPrefixOf_iff_prefix.mpr (List.prefix_append (c :: r) s)
  simp only [replaceAll, List.isEmpty_cons, Bool.false_eq_true, if_false, List.cons_append, replaceFrom, begins,
    if_true, List.length_cons, Nat.add_sub_cancel, replaceFrom_append]

theorem replaceAll_cons (elsewhere : ¬ old <+: c :: s) : replaceAll old new (c :: s) = c :: replaceAll old new s := by
  have filled : old.isEmpty = false := by
    rw [List.isEmpty_eq_false_iff]
    rintro rfl
    exact elsewhere List.nil_prefix
  rw [← List.isPrefixOf_iff_prefix] at elsewhere
  simp only [replaceAll, filled, Bool.false_eq_true, if_false, replaceFrom, elsewhere]

/-- From the left, an occurrence is replaced, and a character is kept where none begins. -/
inductive Replaced (old new : List Char) : List Char → List Char → Prop
  | nil : Replaced old new [] []
  | found {s t : List Char} (rest : Replaced old new s t) : Replaced old new (old ++ s) (new ++ t)
  | kept {c : Char} {s t : List Char} (elsewhere : ¬ old <+: c :: s) (rest : Replaced old new s t) :
      Replaced old new (c :: s) (c :: t)

theorem replaced_replaceAll (filled : old ≠ []) (s : List Char) : Replaced old new s (replaceAll old new s) := by
  induction n : s.length using Nat.strongRecOn generalizing s with
  | ind n ih =>
    subst n
    by_cases begins : old <+: s
    · obtain ⟨rest, rfl⟩ := begins
      have shorter : rest.length < (old ++ rest).length := by
        rw [List.length_append]
        exact Nat.lt_add_of_pos_left (List.length_pos_iff.mpr filled)
      rw [replaceAll_append filled]
      exact .found (ih _ shorter rest rfl)
    · cases s with
      | nil =>
        rw [replaceAll_nil]
        exact .nil
      | cons c s =>
        rw [replaceAll_cons begins]
        exact .kept begins (ih _ (Nat.lt_succ_self _) s rfl)

theorem prefix_of_prefix_append_cons (absent : x ∉ w) (h : w <+: a ++ x :: b) : w <+: a := by
  induction a generalizing w with
  | nil =>
    cases w with
    | nil => exact List.nil_prefix
    | cons c w =>
      obtain ⟨rfl, -⟩ := List.cons_prefix_cons.mp h
      exact absurd (List.mem_cons_self ..) absent
  | cons d a ih =>
    cases w with
    | nil => exact List.nil_prefix
    | cons c w =>
      obtain ⟨rfl, more⟩ := List.cons_prefix_cons.mp h
      exact List.cons_prefix_cons.mpr ⟨rfl, ih (fun there => absent (List.mem_cons_of_mem _ there)) more⟩

theorem infix_of_infix_append_cons (absent : x ∉ w) (h : w <:+: a ++ x :: b) : w <:+: a ∨ w <:+: b := by
  induction a with
  | nil =>
    rcases List.infix_cons_iff.mp h with begins | inside
    · exact .inl (prefix_of_prefix_append_cons (a := []) absent begins).isInfix
    · exact .inr inside
  | cons d a ih =>
    rcases List.infix_cons_iff.mp h with begins | inside
    · exact .inl (prefix_of_prefix_append_cons (a := d :: a) absent begins).isInfix
    · exact (ih inside).imp_left fun inside => inside.trans (List.suffix_cons d a).isInfix

namespace Replaced

theorem isPrefix_of_isPrefix (absent : x ∉ w) (h : Replaced old (x :: inner) s t) (begins : w <+: t) : w <+: s := by
  induction h generalizing w with
  | nil => exact begins
  | found rest ih =>
    have empty := prefix_of_prefix_append_cons (a := []) absent begins
    rw [List.prefix_nil.mp empty]
    exact List.nil_prefix
  | @kept c s t elsewhere rest ih =>
    cases w with
    | nil => exact List.nil_prefix
    | cons d w =>
      obtain ⟨rfl, more⟩ := List.cons_prefix_cons.mp begins
      exact List.cons_prefix_cons.mpr ⟨rfl, ih (fun there => absent (List.mem_cons_of_mem _ there)) more⟩

/-- Whatever is put in keeps two pieces of the old text apart, so the replaced part does not come about anew. -/
theorem not_isInfix (opens : x ∉ old) (closes : y ∉ old) (apart : ¬ old <:+: inner)
    (h : Replaced old (x :: (inner ++ [y])) s t) : ¬ old <:+: t := by
  induction h with
  | nil => exact fun inside => apart (inside.trans List.nil_infix)
  | @found s t rest ih =>
    intro inside
    have parts : x :: (inner ++ [y]) ++ t = [] ++ x :: (inner ++ y :: t) := by simp
    rw [parts] at inside
    rcases infix_of_infix_append_cons opens inside with none | inside
    · exact apart (none.trans List.nil_infix)
    · exact (infix_of_infix_append_cons closes inside).elim apart ih
  | @kept c s t elsewhere rest ih =>
    intro inside
    rcases List.infix_cons_iff.mp inside with begins | inside
    -- It would begin at a kept character, where it did not begin before.
    · exact elsewhere ((kept elsewhere rest).isPrefix_of_isPrefix opens begins)
    · exact ih inside

end Replaced
end AsmScope.Text
