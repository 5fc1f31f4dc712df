import AsmScope.Proofs.Text.Numeral
import AsmScope.Proofs.Workspace.Manager

/-! The names of the directories. All that one manager hands out lie side by side, whatever stands before their
numbers, and no number is given twice. -/

namespace AsmScope
open FileTree

namespace FileTree

theorem destination_append (here : Location) (names more : List String) :
    destination here (names ++ more) = destination (destination here names) more := by
  induction names generalizing here with
  | nil => rfl
  | cons name names ih =>
    rw [List.cons_append, destination, destination]
    split
    · exact ih here
    · split
      · exact ih here.tail
      · exact ih (name :: here)

theorem splitOn_slash (around name : List Char) (slashless : '/' ∉ name) :
    (around ++ '/' :: name).splitOn '/' = around.splitOn '/' ++ [name] := by
  have parts : (around ++ '/' :: name).splitOn '/' = around.splitOn '/' ++ name.splitOn '/' :=
    List.splitOnP_append_cons around name (by simp)
  rw [parts, List.splitOn_eq_singleton slashless]

theorem placeOf_child (around : String) {name : String} (slashless : '/' ∉ name.toList)
    (meant : name ≠ "" ∧ name ≠ "." ∧ name ≠ "..") :
    placeOf (around ++ "/" ++ name) = name :: placeOf (around ++ "/") := by
  have whole : (around ++ "/" ++ name).toList = around.toList ++ '/' :: name.toList := by simp
  have outer : (around ++ "/").toList = around.toList ++ '/' :: [] := by simp
  have begins : (around.toList ++ '/' :: name.toList).head? = (around.toList ++ '/' :: []).head? := by
    cases around.toList <;> rfl
  rw [placeOf_eq_destination, placeOf_eq_destination, whole, outer, begins, splitOn_slash _ _ slashless,
    splitOn_slash _ _ List.not_mem_nil, List.map_append, List.map_append, destination_append, destination_append]
  simp [destination, meant]

theorem placeOf_slash {path : String} (filled : path ≠ "") : placeOf (path ++ "/") = placeOf path := by
  have outer : (path ++ "/").toList = path.toList ++ '/' :: [] := by simp
  have begins : (path.toList ++ '/' :: []).head? = path.toList.head? :=
    List.head?_append_of_ne_nil _ fun none => filled (String.toList_inj.mp none)
  rw [placeOf_eq_destination, placeOf_eq_destination, outer, begins, splitOn_slash _ _ List.not_mem_nil,
    List.map_append, destination_append]
  simp [destination]

end FileTree

namespace Manager
variable {m m' m₁ : Manager}

theorem slash_not_mem_job (n : Nat) : '/' ∉ ("job" ++ toString n).toList := by
  rw [String.toList_append, List.mem_append, not_or]
  refine ⟨by decide, fun there => ?_⟩
  exact absurd (Text.isAsciiDigit_of_mem_toString there) (by decide)

theorem meant_job (base : String) (n : Nat) :
    base ++ ("job" ++ toString n) ≠ "" ∧ base ++ ("job" ++ toString n) ≠ "." ∧
      base ++ ("job" ++ toString n) ≠ ".." := by
  have letter : 'j' ∈ (base ++ ("job" ++ toString n)).toList := by simp
  refine ⟨?_, ?_, ?_⟩ <;> intro same <;> rw [same] at letter <;> exact absurd letter (by decide)

theorem under_nameOf (m : Manager) (n : Nat) :
    m.under (m.nameOf n) = m.under m.settings.namePrefix ++ ("job" ++ toString n) := by
  have begins : (m.nameOf n).toList.head? = some '/' ↔ m.settings.namePrefix.toList.head? = some '/' := by
    rw [nameOf, String.toList_append, String.toList_append]
    cases m.settings.namePrefix.toList with
    | nil => simp
    | cons c r => simp
  unfold under
  by_cases slash : m.settings.namePrefix.toList.head? = some '/'
  · rw [if_pos (begins.mpr slash), if_pos slash, nameOf, String.append_assoc]
  · rw [if_neg (mt begins.mp slash), if_neg slash, nameOf]
    split <;> simp only [String.append_assoc]

theorem slash_mem_under (m : Manager) (name : String) : '/' ∈ (m.under name).toList := by
  unfold under
  split
  · rename_i slash
    exact List.mem_of_head? slash
  · split
    · rename_i slash
      rw [String.toList_append]
      exact List.mem_append_left _ (List.mem_of_getLast? slash)
    · simp

/-- The directories of one manager lie side by side and are told apart by their numbers. -/
theorem placeOf_nameOf (m : Manager) :
    ∃ base around, ∀ n : Nat, placeOf (m.under (m.nameOf n)) = (base ++ ("job" ++ toString n)) :: around := by
  obtain ⟨last, lead, parts, slashless⟩ :=
    List.eq_append_cons_of_mem (List.mem_reverse.mpr (m.slash_mem_under m.settings.namePrefix))
  have stem : m.under m.settings.namePrefix = String.ofList lead.reverse ++ "/" ++ String.ofList last.reverse := by
    rw [← String.toList_inj, ← List.reverse_inj, parts]
    simp
  refine ⟨String.ofList last.reverse, placeOf (String.ofList lead.reverse ++ "/"), fun n => ?_⟩
  rw [under_nameOf, stem, String.append_assoc]
  have letters : (String.ofList last.reverse ++ ("job" ++ toString n)).toList =
      last.reverse ++ ("job" ++ toString n).toList := by
    rw [String.toList_append, String.toList_ofList]
  refine placeOf_child _ ?_ (meant_job _ n)
  rw [letters, List.mem_append, List.mem_reverse, not_or]
  exact ⟨slashless, slash_not_mem_job n⟩

theorem number_eq_of_isWithin {m : Manager} {n k : Nat}
    (h : isWithin (placeOf (m.under (m.nameOf n))) (placeOf (m.under (m.nameOf k))) = true) : n = k := by
  obtain ⟨base, around, places⟩ := m.placeOf_nameOf
  have suffix := List.isSuffixOf_iff_suffix.mp h
  have same := suffix.eq_of_length (by rw [places, places]; rfl)
  rw [places, places] at same
  have number := (String.append_right_inj "job").mp ((String.append_right_inj base).mp (List.cons.inj same).1)
  exact Text.eq_of_toString_eq number

theorem placeOf_nameOf_of_slashless {m : Manager} (slashless : '/' ∉ m.settings.namePrefix.toList)
    (filled : m.root ≠ "") (n : Nat) : placeOf (m.under (m.nameOf n)) = m.nameOf n :: placeOf m.root := by
  have letters : (m.nameOf n).toList = m.settings.namePrefix.toList ++ ("job" ++ toString n).toList := by
    rw [nameOf, String.append_assoc, String.toList_append]
  have whole : '/' ∉ (m.nameOf n).toList := by
    rw [letters, List.mem_append, not_or]
    exact ⟨slashless, slash_not_mem_job n⟩
  have meant : m.nameOf n ≠ "" ∧ m.nameOf n ≠ "." ∧ m.nameOf n ≠ ".." := by
    rw [nameOf, String.append_assoc]
    exact meant_job _ n
  unfold under
  rw [if_neg fun slash => whole (List.mem_of_head? slash)]
  split
  · rename_i slash
    obtain ⟨lead, parts⟩ := List.getLast?_eq_some_iff.mp slash
    have root : m.root = String.ofList lead ++ "/" := by
      rw [← String.toList_inj, parts]
      simp
    rw [root, placeOf_child _ whole meant]
  · rw [placeOf_child _ whole meant, placeOf_slash filled]

end Manager
end AsmScope
