import AsmScope.Compile.Store

/-! What the operations of a store do to its entries. Asking moves an entry, and putting adds at most one; no
operation makes up an entry of its own. -/

namespace AsmScope.Store

theorem mem_of_find? {s : Store} {key : String} {e : Stored} (h : s.find? key = some e) :
    e ∈ s.entries ∧ e.key = key :=
  ⟨List.mem_of_find?_eq_some h, by simpa using List.find?_some h⟩

theorem find?_eq_none_iff (s : Store) (key : String) : s.find? key = none ↔ key ∉ s.keys := by
  simp [find?, keys]

theorem get_of_find? {s : Store} {key : String} {e : Stored} (h : s.find? key = some e) :
    s.get key = (some e.result, { s with entries := without key s.entries ++ [e] }) := by
  rw [get, h]

theorem get_of_find?_none {s : Store} {key : String} (h : s.find? key = none) : s.get key = (none, s) := by
  rw [get, h]

theorem mem_entries_of_mem_get {s : Store} {key : String} {e : Stored} (h : e ∈ (s.get key).2.entries) :
    e ∈ s.entries := by
  cases found : s.find? key with
  | none => simpa [get_of_find?_none found] using h
  | some e' =>
    simp only [get_of_find? found, List.mem_append, List.mem_singleton] at h
    rcases h with h | rfl
    · exact (List.mem_filter.mp h).1
    · exact (mem_of_find? found).1

theorem evict_suffix (capacity : Int) (need : Nat) (entries : List Stored) (size : Nat) :
    (evict capacity need entries size).1 <:+ entries := by
  induction entries generalizing size with
  | nil => exact List.suffix_refl _
  | cons e rest ih =>
    rw [evict]
    split
    · exact (ih _).trans (List.suffix_cons e rest)
    · exact List.suffix_refl _

theorem mem_entries_of_mem_put {s : Store} {key : String} {result : Result} {e : Stored}
    (h : e ∈ (s.put key result).2.entries) :
    e ∈ s.entries ∨ e = ⟨key, result, result.entrySize key⟩ := by
  unfold put at h
  simp only at h
  split at h
  · exact .inl h
  · simp only [List.mem_append, List.mem_singleton] at h
    rcases h with h | h
    · exact .inl (List.mem_filter.mp ((evict_suffix ..).mem h)).1
    · exact .inr h

theorem put_of_large {s : Store} {key : String} {result : Result} (large : s.capacity < (result.entrySize key : Int)) :
    s.put key result = (false, s) := by
  simp only [put, if_pos large]

theorem find?_put {s : Store} {key : String} {result : Result} (fits : (result.entrySize key : Int) ≤ s.capacity) :
    (s.put key result).2.find? key = some ⟨key, result, result.entrySize key⟩ := by
  simp only [put, if_neg (Int.not_lt.mpr fits), find?, List.find?_append]
  have others : ∀ e ∈ (evict s.capacity (result.entrySize key) (without key s.entries)
      (s.size - ((s.find? key).map Stored.size).getD 0)).1, ¬ decide (e.key = key) = true := fun e he => by
    simpa using (List.mem_filter.mp ((evict_suffix ..).mem he)).2
  rw [find?] at others
  rw [List.find?_eq_none.mpr others]
  simp

end AsmScope.Store
