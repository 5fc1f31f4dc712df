import AsmScope.Proofs.Compile.Store
import AsmScope.Proofs.Keyed
import Mathlib.Algebra.GroupWithZero.Nat
import Mathlib.Data.List.Induction

/-! The account that a store keeps of itself. A store is used by putting, asking, looking whether a key is there,
and clearing; whatever the order of uses, no key is held twice, each entry is charged what it takes, the charges
add up to the size, and the size stays within the capacity. Taking an entry out and putting it at the end, as
asking does, only permutes the entries. -/

namespace AsmScope.Store

def weight (entries : List Stored) : Nat := (entries.map Stored.size).sum

@[simp] theorem weight_nil : weight [] = 0 := rfl

@[simp] theorem weight_cons (e : Stored) (entries : List Stored) : weight (e :: entries) = e.size + weight entries :=
  rfl

@[simp] theorem weight_append (entries more : List Stored) : weight (entries ++ more) = weight entries + weight more := by
  simp [weight]

theorem weight_perm {entries entries' : List Stored} (h : entries.Perm entries') : weight entries = weight entries' :=
  (h.map Stored.size).sum_nat

inductive Use where
  | put (key : String) (result : Result)
  | get (key : String)
  | contains (key : String)
  | clear

def use (s : Store) : Use → Store
  | .put key result => (s.put key result).2
  | .get key => (s.get key).2
  | .contains _ => s
  | .clear => s.clear

def after (capacity : Int) (uses : List Use) : Store := uses.foldl use (empty capacity)

theorem after_concat (capacity : Int) (uses : List Use) (u : Use) :
    after capacity (uses ++ [u]) = (after capacity uses).use u := by
  simp only [after, List.foldl_append, List.foldl_cons, List.foldl_nil]

theorem use_capacity (s : Store) (u : Use) : (s.use u).capacity = s.capacity := by
  cases u with
  | put key result =>
    simp only [use, put]
    split <;> rfl
  | get key =>
    simp only [use, get]
    split <;> rfl
  | contains key => rfl
  | clear => rfl

theorem after_capacity (capacity : Int) (uses : List Use) : (after capacity uses).capacity = capacity := by
  induction uses using List.reverseRecOn with
  | nil => rfl
  | append_singleton uses u ih => rw [after_concat, use_capacity, ih]

theorem without_of_not_mem {key : String} {entries : List Stored} (absent : key ∉ entries.map Stored.key) :
    without key entries = entries := by
  refine List.filter_eq_self.mpr fun e he => ?_
  have other : e.key ≠ key := fun same => absent (same ▸ List.mem_map_of_mem he)
  simpa using other

/-- An entry that is found stands for all that is held under its key. -/
theorem perm_of_find? {s : Store} (keys : s.keys.Nodup) {key : String} {e : Stored} (found : s.find? key = some e) :
    s.entries.Perm (e :: without key s.entries) := by
  obtain ⟨he, rfl⟩ := mem_of_find? found
  exact perm_cons_others keys he

theorem evict_weight (capacity : Int) (need : Nat) (entries : List Stored) :
    (evict capacity need entries (weight entries)).2 = weight (evict capacity need entries (weight entries)).1 := by
  induction entries with
  | nil => rfl
  | cons e rest ih =>
    rw [evict]
    split
    · rwa [weight_cons, Nat.add_sub_cancel_left]
    · rfl

/-- There is room for what can fit at all, in the worst case when nothing is left. -/
theorem evict_fits {capacity : Int} {need : Nat} (fits : (need : Int) ≤ capacity) (entries : List Stored) :
    ((evict capacity need entries (weight entries)).2 + need : Nat) ≤ capacity := by
  induction entries with
  | nil => simpa [evict] using fits
  | cons e rest ih =>
    rw [evict]
    split
    · rwa [weight_cons, Nat.add_sub_cancel_left]
    · rename_i room
      exact Int.not_lt.mp room

structure Sound (s : Store) : Prop where
  keys : s.keys.Nodup
  sizes : ∀ e ∈ s.entries, e.size = e.result.entrySize e.key
  total : s.size = weight s.entries
  bounded : (s.size : Int) ≤ s.capacity

namespace Sound

theorem empty {capacity : Int} (nonneg : 0 ≤ capacity) : Sound (empty capacity) where
  keys := List.nodup_nil
  sizes := by simp [Store.empty]
  total := rfl
  bounded := nonneg

theorem perm {s t : Store} (h : Sound s) (entries : s.entries.Perm t.entries) (size : t.size = s.size)
    (capacity : t.capacity = s.capacity) : Sound t where
  keys := (entries.map Stored.key).nodup_iff.mp h.keys
  sizes e he := h.sizes e (entries.mem_iff.mpr he)
  total := by rw [size, h.total, weight_perm entries]
  bounded := by rw [size, capacity]; exact h.bounded

theorem get {s : Store} (h : Sound s) (key : String) : Sound (s.get key).2 := by
  cases found : s.find? key with
  | none => rwa [get_of_find?_none found]
  | some e =>
    rw [get_of_find? found]
    exact h.perm ((perm_of_find? h.keys found).trans (List.perm_append_singleton e _).symm) rfl rfl

theorem weight_without {s : Store} (h : Sound s) (key : String) :
    s.size - ((s.find? key).map Stored.size).getD 0 = weight (without key s.entries) := by
  rw [h.total]
  cases found : s.find? key with
  | none => simp [without_of_not_mem ((find?_eq_none_iff s key).mp found)]
  | some e =>
    rw [weight_perm (perm_of_find? h.keys found), weight_cons, Option.map_some, Option.getD_some,
      Nat.add_sub_cancel_left]

theorem put {s : Store} (h : Sound s) (key : String) (result : Result) : Sound (s.put key result).2 := by
  unfold Store.put
  simp only [h.weight_without key]
  split
  · exact h
  · rename_i fits
    have left := evict_suffix s.capacity (result.entrySize key) (without key s.entries) (weight (without key s.entries))
    have others := left.sublist.trans (List.filter_sublist (l := s.entries))
    refine ⟨?_, ?_, ?_, evict_fits (Int.not_lt.mp fits) _⟩
    · rw [Store.keys, List.map_append, List.nodup_append]
      refine ⟨h.keys.sublist (others.map _), by simp, ?_⟩
      rintro k hk k' hk' rfl
      obtain ⟨e, he, rfl⟩ := List.mem_map.mp hk
      have apart := (List.mem_filter.mp (left.mem he)).2
      simp only [List.map_cons, List.map_nil, List.mem_singleton] at hk'
      simp [hk'] at apart
    · intro e he
      rcases List.mem_append.mp he with he | he
      · exact h.sizes e (others.mem he)
      · rw [List.mem_singleton.mp he]
    · rw [weight_append, evict_weight]
      rfl

theorem clear {s : Store} (h : Sound s) : Sound s.clear where
  keys := List.nodup_nil
  sizes := by simp [Store.clear]
  total := rfl
  bounded := Int.le_trans (Int.natCast_nonneg s.size) h.bounded

theorem use {s : Store} (h : Sound s) (u : Use) : Sound (s.use u) := by
  cases u with
  | put key result => exact h.put key result
  | get key => exact h.get key
  | contains key => exact h
  | clear => exact h.clear

end Sound

theorem sound_after {capacity : Int} (nonneg : 0 ≤ capacity) (uses : List Use) : Sound (after capacity uses) := by
  induction uses using List.reverseRecOn with
  | nil => exact .empty nonneg
  | append_singleton uses u ih =>
    rw [after_concat]
    exact ih.use u

/-- The account of a store is right after any uses of a new one: its keys are distinct, every entry is charged the
octets of its result and its key, the size is the sum of the charges, and it is within the capacity. -/
theorem account_balances (capacity : Int) (nonneg : 0 ≤ capacity) (uses : List Use) :
    (after capacity uses).keys.Nodup ∧
    (∀ e ∈ (after capacity uses).entries, e.size = e.result.entrySize e.key) ∧
    (after capacity uses).size = ((after capacity uses).entries.map Stored.size).sum ∧
    ((after capacity uses).size : Int) ≤ capacity := by
  have sound := sound_after nonneg uses
  have bounded := sound.bounded
  rw [after_capacity] at bounded
  exact ⟨sound.keys, sound.sizes, sound.total, bounded⟩

def shortResult : Result := { code := some 0 }

def longResult : Result := { code := some 0, asm := .plain "a result that takes more room" }

/-- A result takes the place of another one, is asked for, and stays when a third one needs room. -/
def crowded : List Use :=
  [.put "a" shortResult, .put "b" shortResult, .put "a" longResult, .get "a", .contains "b", .put "c" longResult]

theorem account_balances_crowded :
    (0 : Int) ≤ 240 ∧ (after 240 crowded).keys.Nodup ∧ ((after 240 crowded).entries.map Stored.size).sum ≤ 240 := by
  have nonneg : (0 : Int) ≤ 240 := by decide
  obtain ⟨keys, -, total, bounded⟩ := account_balances 240 nonneg crowded
  rw [total] at bounded
  exact ⟨nonneg, keys, Int.ofNat_le.mp bounded⟩

end AsmScope.Store
