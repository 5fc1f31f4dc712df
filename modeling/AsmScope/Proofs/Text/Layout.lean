import AsmScope.Text.Blank
import AsmScope.Text.Tabs
import Mathlib.Data.List.DropRight
import Mathlib.Data.List.TakeWhile

/-! The layout of a line. A tab may be written as spaces, and blanks at the end may be left out. What a reader finds
by looking for characters that are not blank is the same in every layout. -/

namespace AsmScope.Text

/-- The second text is the first one in another layout. -/
inductive Relaid : List Char → List Char → Prop where
  | gone {tail : List Char} (blank : tail.all isBlank = true) : Relaid tail []
  | tab {s t : List Char} (rest : Relaid s t) : Relaid ('\t' :: s) (' ' :: t)
  | wide {s t : List Char} (rest : Relaid ('\t' :: s) t) : Relaid ('\t' :: s) (' ' :: t)
  | same {s t : List Char} (c : Char) (rest : Relaid s t) : Relaid (c :: s) (c :: t)

/-- No blank is among the characters looked for. -/
def Shuns (p : Char → Bool) : Prop := ∀ c, isBlank c = true → p c = false

def blankCodes : List Nat :=
  List.range' 9 5 ++ List.range' 28 5 ++ [0x85, 0xA0, 0x1680] ++ List.range' 0x2000 11
    ++ [0x2028, 0x2029, 0x202F, 0x205F, 0x3000]

theorem mem_blankCodes {c : Char} (h : isBlank c = true) : c.toNat ∈ blankCodes := by
  simp only [isBlank, Bool.or_eq_true, Bool.and_eq_true, decide_eq_true_eq, beq_iff_eq] at h
  simp only [blankCodes, List.mem_append, List.mem_range'_1, List.mem_cons, List.not_mem_nil, or_false]
  omega

theorem shuns_of_codes {p : Char → Bool} (h : ∀ n ∈ blankCodes, p (Char.ofNat n) = false) : Shuns p := by
  intro c blank
  rw [← Char.ofNat_toNat c]
  exact h _ (mem_blankCodes blank)

theorem isBlank_head_of_dropBlank {c : Char} {s r : List Char} (h : dropBlank s = c :: r) : isBlank c = false := by
  have first := List.head?_dropWhile_not isBlank s
  rw [show s.dropWhile isBlank = c :: r from h] at first
  exact first

theorem dropBlank_eq_nil_iff {s : List Char} : dropBlank s = [] ↔ s.all isBlank = true := by
  rw [dropBlank, List.dropWhile_eq_nil_iff, List.all_eq_true]

theorem ne_of_visible {c d : Char} (visible : isBlank c = false) (blank : isBlank d = true) : c ≠ d := by
  rintro rfl
  rw [visible] at blank
  cases blank

theorem dropBlankEnd_eq_rdropWhile (s : List Char) : dropBlankEnd s = s.rdropWhile isBlank := rfl

theorem dropBlankEnd_cons (c : Char) (s : List Char) :
    dropBlankEnd (c :: s) = if (c :: s).all isBlank then [] else c :: dropBlankEnd s := by
  have whole : (s.reverse.dropWhile isBlank).isEmpty = s.all isBlank := by
    rw [Bool.eq_iff_iff, List.isEmpty_iff, List.dropWhile_eq_nil_iff]
    simp
  rw [dropBlankEnd, dropBlankEnd, List.reverse_cons, List.dropWhile_append, whole, List.all_cons]
  cases rest : s.all isBlank with
  | false => simp
  | true =>
    rw [rest, List.isEmpty_iff] at whole
    cases blank : isBlank c <;> simp [blank, whole]

theorem mem_of_mem_dropBlankEnd {c : Char} {s : List Char} (h : c ∈ dropBlankEnd s) : c ∈ s :=
  List.mem_reverse.mp ((List.dropWhile_sublist isBlank).subset (List.mem_reverse.mp h))

namespace Relaid
variable {s t : List Char} {p : Char → Bool}

theorem refl (s : List Char) : Relaid s s := by
  induction s with
  | nil => exact .gone rfl
  | cons c s ih => exact .same c ih

theorem spaces (n : Nat) (h : Relaid s t) : Relaid ('\t' :: s) (List.replicate (n + 1) ' ' ++ t) := by
  induction n with
  | zero => exact .tab h
  | succ n ih => exact .wide ih

theorem expandTabsFrom (column : Nat) (s : List Char) : Relaid s (Text.expandTabsFrom column s) := by
  induction s generalizing column with
  | nil => exact .gone rfl
  | cons c s ih =>
    rw [Text.expandTabsFrom]
    split
    · rename_i tab
      -- A tab is never empty: it goes on to the next stop.
      obtain ⟨n, fill⟩ : ∃ n, tabWidth - column % tabWidth = n + 1 :=
        Nat.exists_eq_add_one.mpr (Nat.sub_pos_of_lt (Nat.mod_lt _ (by decide)))
      simp only [tab, fill]
      exact (ih _).spaces n
    · split
      · exact .same c (ih _)
      · exact .same c (ih _)

theorem expandTabs (s : List Char) : Relaid s (Text.expandTabs s) := expandTabsFrom 0 s

theorem all_isBlank (h : Relaid s t) : t.all isBlank = s.all isBlank := by
  induction h with
  | gone blank => rw [blank]; rfl
  | tab rest ih => rw [List.all_cons, List.all_cons, ih]; rfl
  | wide rest ih => rw [List.all_cons, ih]; rfl
  | same c rest ih => rw [List.all_cons, List.all_cons, ih]

theorem dropBlankEnd (h : Relaid s t) : Relaid s (Text.dropBlankEnd t) := by
  -- A text that is blank to its end is left out as a whole.
  have cut {s t : List Char} {c : Char} (h : Relaid s (c :: t)) (kept : Relaid s (c :: Text.dropBlankEnd t)) :
      Relaid s (Text.dropBlankEnd (c :: t)) := by
    rw [dropBlankEnd_cons]
    split
    · rename_i blank
      exact .gone (h.all_isBlank.symm.trans blank)
    · exact kept
  induction h with
  | gone blank => exact .gone blank
  | tab rest ih => exact cut rest.tab ih.tab
  | wide rest ih => exact cut rest.wide ih.wide
  | same c rest ih => exact cut (rest.same c) (ih.same c)

theorem dropBlank (h : Relaid s t) : Relaid (Text.dropBlank s) (Text.dropBlank t) := by
  induction h with
  | gone blank =>
    rw [dropBlank_eq_nil_iff.mpr blank]
    exact .gone rfl
  | tab rest ih => exact ih
  | wide rest ih => exact ih
  | same c rest ih =>
    rw [dropBlank_cons, dropBlank_cons]
    split
    · exact ih
    · exact .same c rest

theorem of_nil (h : Relaid [] t) : t = [] := by
  cases h
  rfl

theorem of_visible {c : Char} (h : Relaid (c :: s) t) (visible : isBlank c = false) :
    ∃ t', t = c :: t' ∧ Relaid s t' := by
  cases h with
  | gone blank =>
    rw [List.all_cons, visible] at blank
    cases blank
  | tab rest => cases visible
  | wide rest => cases visible
  | same c rest => exact ⟨_, rfl, rest⟩

theorem head?_dropBlank (h : Relaid s t) : (Text.dropBlank t).head? = (Text.dropBlank s).head? := by
  have first := h.dropBlank
  cases begins : Text.dropBlank s with
  | nil =>
    rw [begins] at first
    rw [first.of_nil]
  | cons c r =>
    rw [begins] at first
    obtain ⟨r', begins', -⟩ := first.of_visible (isBlank_head_of_dropBlank begins)
    rw [begins']
    rfl

theorem prefix_iff (h : Relaid s t) {w : List Char} (visible : w.any isBlank = false) : w <+: t ↔ w <+: s := by
  induction h generalizing w with
  | @gone tail blank =>
    cases w with
    | nil => simp
    | cons c w =>
      rw [List.any_cons, Bool.or_eq_false_iff] at visible
      refine ⟨fun none => (List.cons_ne_nil _ _ (List.prefix_nil.mp none)).elim, fun begins => ?_⟩
      have both := List.all_eq_true.mp blank c (begins.subset (List.mem_cons_self ..))
      rw [visible.1] at both
      cases both
  | tab rest ih =>
    cases w with
    | nil => simp
    | cons c w =>
      rw [List.any_cons, Bool.or_eq_false_iff] at visible
      simp [ne_of_visible visible.1 (d := '\t') rfl, ne_of_visible visible.1 (d := ' ') rfl]
  | wide rest ih =>
    cases w with
    | nil => simp
    | cons c w =>
      rw [List.any_cons, Bool.or_eq_false_iff] at visible
      simp [ne_of_visible visible.1 (d := '\t') rfl, ne_of_visible visible.1 (d := ' ') rfl]
  | same d rest ih =>
    cases w with
    | nil => simp
    | cons c w =>
      rw [List.any_cons, Bool.or_eq_false_iff] at visible
      rw [List.cons_prefix_cons, List.cons_prefix_cons, ih visible.2]

theorem takeWhile (h : Relaid s t) (shuns : Shuns p) : t.takeWhile p = s.takeWhile p := by
  induction h with
  | @gone tail blank =>
    cases tail with
    | nil => rfl
    | cons c tail =>
      rw [List.all_cons, Bool.and_eq_true] at blank
      rw [List.takeWhile_cons, shuns c blank.1]
      rfl
  | tab rest ih => simp [shuns '\t' rfl, shuns ' ' rfl]
  | wide rest ih => simp [shuns '\t' rfl, shuns ' ' rfl]
  | same c rest ih => rw [List.takeWhile_cons, List.takeWhile_cons, ih]

theorem takeWhile_through (h : Relaid s t) (through : ∀ c, isBlank c = true → p c = true) :
    Relaid (s.takeWhile p) (t.takeWhile p) := by
  induction h with
  | @gone tail blank =>
    refine .gone ?_
    rw [List.all_eq_true] at blank ⊢
    exact fun c hc => blank c ((List.takeWhile_sublist p).subset hc)
  | tab rest ih =>
    rw [List.takeWhile_cons, List.takeWhile_cons, through '\t' rfl, through ' ' rfl]
    exact .tab ih
  | wide rest ih =>
    rw [List.takeWhile_cons, through '\t' rfl] at ih ⊢
    rw [List.takeWhile_cons, through ' ' rfl]
    exact .wide ih
  | same c rest ih =>
    rw [List.takeWhile_cons, List.takeWhile_cons]
    split
    · exact .same c ih
    · exact .gone rfl

theorem dropWhile (h : Relaid s t) (shuns : Shuns p) : Relaid (s.dropWhile p) (t.dropWhile p) := by
  induction h with
  | @gone tail blank =>
    refine .gone ?_
    rw [List.all_eq_true] at blank ⊢
    exact fun c hc => blank c ((List.dropWhile_sublist p).subset hc)
  | tab rest ih =>
    rw [List.dropWhile_cons, List.dropWhile_cons, shuns '\t' rfl, shuns ' ' rfl]
    exact .tab rest
  | wide rest ih =>
    rw [List.dropWhile_cons, List.dropWhile_cons, shuns '\t' rfl, shuns ' ' rfl]
    exact .wide rest
  | same c rest ih =>
    rw [List.dropWhile_cons, List.dropWhile_cons]
    split
    · exact ih
    · exact .same c rest

theorem mem {c : Char} (h : Relaid s t) (there : c ∈ t) : c ∈ s ∨ c = ' ' := by
  induction h with
  | gone blank => cases there
  | tab rest ih =>
    rcases List.mem_cons.mp there with rfl | there
    · exact .inr rfl
    · exact (ih there).imp_left (List.mem_cons_of_mem _)
  | wide rest ih =>
    rcases List.mem_cons.mp there with rfl | there
    · exact .inr rfl
    · exact ih there
  | same d rest ih =>
    rcases List.mem_cons.mp there with rfl | there
    · exact .inl (List.mem_cons_self ..)
    · exact (ih there).imp_left (List.mem_cons_of_mem _)

end Relaid
end AsmScope.Text
