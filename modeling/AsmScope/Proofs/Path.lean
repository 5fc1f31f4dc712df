import AsmScope.Path
import AsmScope.Proofs.Text.Lines
import Mathlib.Data.String.Basic

/-! Reading a path and writing it down again. What is read is proper: it has one of the three roots, and its names
are free of slashes. A proper path is read back from its text, so the normal form of a path leads where the path
leads. -/

namespace AsmScope.Path

def IsName (name : String) : Prop := name ≠ "" ∧ name ≠ "." ∧ '/' ∉ name.toList

structure IsProper (p : Path) : Prop where
  root : p.root = "" ∨ p.root = "/" ∨ p.root = "//"
  names : ∀ name ∈ p.names, IsName name

theorem rootOf_relative {s : List Char} (h : s.head? ≠ some '/') : rootOf s = "" := by
  unfold rootOf
  split <;> simp_all

theorem rootOf_slash {s : List Char} (h : s.head? ≠ some '/') : rootOf ('/' :: s) = "/" := by
  unfold rootOf
  split <;> grind

theorem rootOf_slashes {s : List Char} (h : s.head? ≠ some '/') : rootOf ('/' :: '/' :: s) = "//" := by
  unfold rootOf
  split <;> grind

theorem rootOf_cases (s : List Char) : rootOf s = "" ∨ rootOf s = "/" ∨ rootOf s = "//" := by
  unfold rootOf
  split <;> simp

theorem rootOf_eq_empty_iff (s : List Char) : rootOf s = "" ↔ s.head? ≠ some '/' := by
  refine ⟨fun relative slash => ?_, rootOf_relative⟩
  obtain ⟨s, rfl⟩ : ∃ rest, s = '/' :: rest := by
    cases s <;> simp_all
  unfold rootOf at relative
  split at relative <;> simp_all

theorem isProper_ofString (s : String) : IsProper (ofString s) where
  root := rootOf_cases s.toList
  names name h := by
    obtain ⟨piece, hpiece, rfl⟩ := List.mem_map.mp h
    obtain ⟨split, kept⟩ := List.mem_filter.mp hpiece
    obtain ⟨some, dotless⟩ := of_decide_eq_true kept
    refine ⟨fun empty => some ?_, fun dot => dotless ?_, ?_⟩
    · simpa using congrArg String.toList empty
    · simpa using congrArg String.toList dot
    · rw [String.toList_ofList]
      exact Text.not_mem_of_mem_splitOn split

theorem namesOf_slash (s : List Char) : namesOf ('/' :: s) = namesOf s := by
  simp [namesOf, List.splitOn_cons_eq_if_modifyHead]

theorem splitOn_intercalate {names : List String} (h : ∀ name ∈ names, IsName name) (some : names ≠ []) :
    (String.intercalate "/" names).toList.splitOn '/' = names.map String.toList := by
  rw [String.toList_intercalate]
  refine List.splitOn_intercalate '/' (fun piece hpiece => ?_) (by simpa using some)
  obtain ⟨name, hname, rfl⟩ := List.mem_map.mp hpiece
  exact (h name hname).2.2

theorem namesOf_intercalate {names : List String} (h : ∀ name ∈ names, IsName name) :
    namesOf (String.intercalate "/" names).toList = names := by
  cases names with
  | nil => rfl
  | cons first rest =>
    rw [namesOf, splitOn_intercalate h (by simp), List.filter_eq_self.mpr ?_, List.map_map]
    · simp [Function.comp_def]
    · intro piece hpiece
      obtain ⟨name, hname, rfl⟩ := List.mem_map.mp hpiece
      obtain ⟨some, dotless, -⟩ := h name hname
      refine decide_eq_true ⟨fun empty => some ?_, fun dot => dotless ?_⟩
      · exact String.toList_inj.mp empty
      · exact String.toList_inj.mp dot

theorem head?_intercalate {names : List String} (h : ∀ name ∈ names, IsName name) :
    (String.intercalate "/" names).toList.head? ≠ some '/' := by
  cases names with
  | nil => simp
  | cons first rest =>
    obtain ⟨some, -, slashless⟩ := h first (List.mem_cons_self ..)
    have begins : (String.intercalate "/" (first :: rest)).toList.head? = first.toList.head? := by
      have letters : first.toList ≠ [] := fun none => some (String.toList_inj.mp none)
      cases rest with
      | nil => rw [String.intercalate_singleton]
      | cons next rest =>
        rw [String.intercalate_cons_cons, String.append_assoc, String.toList_append]
        exact List.head?_append_of_ne_nil _ letters
    rw [begins]
    exact fun slash => slashless (List.mem_of_head? slash)

theorem ofString_text {p : Path} (h : IsProper p) : ofString p.text = p := by
  obtain ⟨root, names⟩ := p
  have relative := head?_intercalate h.names
  have read := namesOf_intercalate h.names
  have roots := h.root
  simp only at relative read roots
  by_cases alone : root = "" ∧ names = []
  · obtain ⟨rfl, rfl⟩ := alone
    rfl
  · simp only [text, if_neg alone, ofString, String.toList_append, Path.mk.injEq]
    rcases roots with rfl | rfl | rfl
    · exact ⟨rootOf_relative relative, read⟩
    · exact ⟨rootOf_slash relative, (namesOf_slash _).trans read⟩
    · exact ⟨rootOf_slashes relative, (namesOf_slash _).trans ((namesOf_slash _).trans read)⟩

theorem ofString_normal (s : String) : ofString (normal s) = ofString s := ofString_text (isProper_ofString s)

theorem normal_ne_empty (s : String) : normal s ≠ "" := by
  intro empty
  have nowhere : ofString s = ⟨"", []⟩ := by rw [← ofString_normal, empty]; rfl
  rw [normal, nowhere] at empty
  exact absurd empty (by decide)

theorem intercalate_filter_sublist (mark : Char) (p : List Char → Bool) (pieces : List (List Char)) :
    ([mark].intercalate (pieces.filter p)).Sublist ([mark].intercalate pieces) := by
  induction pieces with
  | nil => exact List.Sublist.refl _
  | cons piece pieces ih =>
    cases pieces with
    | nil =>
      rw [List.filter_cons]
      split
      · exact List.Sublist.refl _
      · exact List.nil_sublist _
    | cons next rest =>
      rw [List.intercalate_cons_cons, List.filter_cons]
      split
      · cases kept : (next :: rest).filter p with
        | nil =>
          rw [List.intercalate_singleton]
          exact (List.sublist_append_left ..).trans (List.sublist_append_left ..)
        | cons first others =>
          rw [List.intercalate_cons_cons, ← kept]
          exact ih.append_left _
      · exact ih.trans (List.sublist_append_right ..)

theorem intercalate_namesOf_sublist (s : List Char) : (String.intercalate "/" (namesOf s)).toList.Sublist s := by
  have letters : (namesOf s).map String.toList =
      (s.splitOn '/').filter fun name => decide (name ≠ [] ∧ name ≠ ['.']) := by
    simp [namesOf, List.map_map, Function.comp_def]
  rw [String.toList_intercalate, letters]
  refine (intercalate_filter_sublist '/' _ _).trans ?_
  rw [List.intercalate_splitOn]

theorem head?_eq_of_nowhere {s : List Char} (filled : s ≠ []) (relative : s.head? ≠ some '/') (nowhere : namesOf s = []) :
    s.head? = some '.' := by
  obtain ⟨c, rest, rfl⟩ := List.exists_cons_of_ne_nil filled
  rw [List.head?_cons, ne_eq, Option.some_inj] at relative
  rw [namesOf, List.map_eq_nil_iff, List.filter_eq_nil_iff, List.splitOn_cons_eq_if_modifyHead, if_neg (by simpa)] at nowhere
  obtain ⟨first, others, pieces⟩ := List.exists_cons_of_ne_nil (List.splitOn_ne_nil '/' rest)
  have begins := nowhere (c :: first) (by rw [pieces]; exact List.mem_cons_self ..)
  simp only [ne_eq, reduceCtorEq, not_false_eq_true, List.cons.injEq, true_and, decide_eq_true_eq, not_not] at begins
  rw [begins.1, List.head?_cons]

theorem toList_normal_sublist {s : String} (filled : s ≠ "") : (normal s).toList.Sublist s.toList := by
  rw [normal, text]
  split
  · rename_i nowhere
    have relative := (rootOf_eq_empty_iff s.toList).mp nowhere.1
    have point := head?_eq_of_nowhere (fun none => filled (String.toList_inj.mp none)) relative nowhere.2
    exact List.singleton_sublist.mpr (List.mem_of_head? point)
  · rw [String.toList_append]
    show ((rootOf s.toList).toList ++ (String.intercalate "/" (namesOf s.toList)).toList).Sublist s.toList
    unfold rootOf
    split
    · rename_i letters
      rw [letters, namesOf_slash]
      exact (intercalate_namesOf_sublist _).cons_cons '/'
    · rename_i letters
      rw [letters, namesOf_slash, namesOf_slash]
      exact ((intercalate_namesOf_sublist _).cons_cons '/').cons_cons '/'
    · rename_i letters
      rw [letters, namesOf_slash]
      exact (intercalate_namesOf_sublist _).cons_cons '/'
    · exact intercalate_namesOf_sublist _

/-- The text of a proper path is its names, with nothing that has a meaning in front of them. -/
theorem pieces_text {p : Path} (h : IsProper p) :
    ∃ lead, (∀ name ∈ lead, name = "" ∨ name = ".") ∧
      (p.text.toList.splitOn '/').map String.ofList = lead ++ p.names := by
  obtain ⟨root, names⟩ := p
  have roots := h.root
  simp only at roots
  cases names with
  | nil =>
    rcases roots with rfl | rfl | rfl
    · exact ⟨["."], by simp, by decide⟩
    · exact ⟨["", ""], by simp, by decide⟩
    · exact ⟨["", "", ""], by simp, by decide⟩
  | cons first rest =>
    have pieces : ((String.intercalate "/" (first :: rest)).toList.splitOn '/').map String.ofList = first :: rest := by
      rw [splitOn_intercalate h.names (by simp)]
      simp [List.map_map, Function.comp_def]
    rw [text, if_neg (by simp)]
    rcases roots with rfl | rfl | rfl
    · exact ⟨[], by simp, by simpa using pieces⟩
    · exact ⟨[""], by simp, by simpa [List.splitOn_cons_eq_if_modifyHead] using pieces⟩
    · exact ⟨["", ""], by simp, by simpa [List.splitOn_cons_eq_if_modifyHead] using pieces⟩

end AsmScope.Path
