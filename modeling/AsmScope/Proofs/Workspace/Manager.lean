import AsmScope.Proofs.Files.Tree
import AsmScope.Workspace.Manager

/-! What handing out a directory does to the tree. Sweeping removes, the root is made if it is missing, and then at most
one directory is made, where nothing was. -/

namespace AsmScope.Manager
open FileTree

/-- The tree in which a new directory is made: swept if that is due, and with the root if it can be made. -/
def prepared (m : Manager) : FileTree :=
  match m.sweepIfDue.tree.ensureAll m.sweepIfDue.now m.sweepIfDue.root with
  | .ok t => t
  | .error _ => m.sweepIfDue.tree

theorem foldl_sweepOne_induction {P : FileTree → Prop} {now : Int}
    (keeps : ∀ t place, P t → P (t.removeAt now place)) (cutoff : Int) (places : List Location)
    {swept : Nat × FileTree} (h : P swept.2) :
    P (places.foldl (sweepOne now cutoff) swept).2 := by
  induction places generalizing swept with
  | nil => exact h
  | cons place places ih =>
    refine ih ?_
    unfold sweepOne
    split
    · exact keeps _ place h
    · exact h

theorem sweepIfDue_induction {P : FileTree → Prop} {m : Manager}
    (keeps : ∀ t place, P t → P (t.removeAt m.now place)) (h : P m.tree) : P m.sweepIfDue.tree := by
  unfold sweepIfDue
  split
  · exact foldl_sweepOne_induction keeps _ _ h
  · exact h

theorem places_sweepIfDue_subset (m : Manager) : m.sweepIfDue.tree.places ⊆ m.tree.places := by
  refine sweepIfDue_induction (P := fun t => t.places ⊆ m.tree.places) (fun t place subset => ?_) (List.Subset.refl _)
  rw [places_removeAt]
  exact List.Subset.trans (List.filter_subset_self _) subset

theorem sweepIfDue_root (m : Manager) : m.sweepIfDue.root = m.root := by
  unfold sweepIfDue
  split <;> rfl

def IsAroundRoot (m : Manager) (place : Location) : Prop :=
  ∃ outer, outer <+: (Path.ofString m.root).names ∧
    place = placeOf (Path.text ⟨(Path.ofString m.root).root, outer⟩)

theorem mem_places_prepared {m : Manager} {place : Location} (h : place ∈ m.prepared.places) :
    place ∈ m.tree.places ∨ m.IsAroundRoot place := by
  unfold prepared at h
  split at h
  · rename_i made
    rw [sweepIfDue_root] at made
    rcases mem_places_ensureFrom made h with h | ⟨outer, suffix, rfl⟩
    · exact .inl (places_sweepIfDue_subset m h)
    · exact .inr ⟨outer.reverse, List.reverse_suffix.mp (by rwa [List.reverse_reverse]), rfl⟩
  · exact .inl (places_sweepIfDue_subset m h)

theorem isRooted_sweepIfDue {m : Manager} (h : m.tree.IsRooted) : m.sweepIfDue.tree.IsRooted :=
  sweepIfDue_induction (fun _ place rooted => rooted.removeAt m.now place) h

theorem isRooted_prepared {m : Manager} (h : m.tree.IsRooted) : m.prepared.IsRooted := by
  unfold prepared
  split
  · rename_i made
    exact (isRooted_sweepIfDue h).of_subset (places_subset_ensureFrom made)
  · exact isRooted_sweepIfDue h

section Acquisition
variable {m m' m₁ : Manager}

structure Continues (m m' : Manager) : Prop where
  settings : m'.settings = m.settings
  root : m'.root = m.root
  now : m.now ≤ m'.now
  count : m.count ≤ m'.count

namespace Continues

theorem refl (m : Manager) : m.Continues m := ⟨rfl, rfl, Int.le_refl _, Nat.le_refl _⟩

theorem trans (h : m.Continues m₁) (h' : m₁.Continues m') : m.Continues m' :=
  ⟨h'.settings.trans h.settings, h'.root.trans h.root, Int.le_trans h.now h'.now, Nat.le_trans h.count h'.count⟩

theorem under (h : m.Continues m') (name : String) : m'.under name = m.under name := by
  rw [Manager.under, Manager.under, h.root]

theorem nameOf (h : m.Continues m') (n : Nat) : m'.nameOf n = m.nameOf n := by
  rw [Manager.nameOf, Manager.nameOf, h.settings]

theorem interval (h : m.Continues m') : m'.interval = m.interval := by
  rw [Manager.interval, Manager.interval, h.settings]

theorem sweepIfDue (m : Manager) : m.Continues m.sweepIfDue := by
  unfold Manager.sweepIfDue
  split
  · exact ⟨rfl, rfl, Int.le_refl _, Nat.le_refl _⟩
  · exact refl m

end Continues

theorem sweepIfDue_now (m : Manager) : m.sweepIfDue.now = m.now := by
  unfold sweepIfDue
  split <;> rfl

theorem sweepIfDue_count (m : Manager) : m.sweepIfDue.count = m.count := by
  unfold sweepIfDue
  split <;> rfl

theorem makeFrom_ok_eq {tries n : Nat} {path : String} (h : m.makeFrom tries n = (.ok path, m')) :
    ∃ k tree, n ≤ k ∧ path = Path.normal (m.under (m.nameOf k)) ∧
      m.tree.makeDirectory m.now (m.under (m.nameOf k)) = .ok (placeOf path, tree) ∧
      m' = { m with tree := tree, count := k } := by
  induction tries generalizing n with
  | zero => cases h
  | succ tries ih =>
    rw [makeFrom] at h
    split at h
    · rename_i place tree made
      obtain ⟨given, rfl⟩ := Prod.mk.inj h
      obtain rfl := Except.ok.inj given
      obtain ⟨rfl, -, -⟩ := makeDirectory_eq_ok made
      exact ⟨n, tree, Nat.le_refl n, rfl, by rw [placeOf_normal]; exact made, rfl⟩
    · obtain ⟨k, tree, later, found⟩ := ih h
      exact ⟨k, tree, Nat.le_of_succ_le later, found⟩
    · cases h

theorem makeFrom_error_eq {tries n : Nat} {e : FileError} (more : m.count ≤ n)
    (h : m.makeFrom tries n = (.error e, m')) : ∃ k, m.count ≤ k ∧ m' = { m with count := k } := by
  induction tries generalizing n with
  | zero =>
    obtain ⟨-, rfl⟩ := Prod.mk.inj h
    exact ⟨m.count, Nat.le_refl _, rfl⟩
  | succ tries ih =>
    rw [makeFrom] at h
    split at h
    · cases h
    · exact ih (Nat.le_succ_of_le more) h
    · obtain ⟨-, rfl⟩ := Prod.mk.inj h
      exact ⟨n, more, rfl⟩

/-- An acquisition sweeps if that is due, makes the root, and then one directory with a number that none had before. -/
theorem acquire_ok_eq {path : String} (h : m.acquire = (.ok path, m')) :
    ∃ t k tree, m.sweepIfDue.tree.ensureAll m.now m.root = .ok t ∧ m.count < k ∧
      path = Path.normal (m.under (m.nameOf k)) ∧
      t.makeDirectory m.now (m.under (m.nameOf k)) = .ok (placeOf path, tree) ∧
      m' = { m.sweepIfDue with tree := tree, count := k } := by
  unfold acquire at h
  simp only at h
  have same := Continues.sweepIfDue m
  cases made : m.sweepIfDue.tree.ensureAll m.sweepIfDue.now m.sweepIfDue.root with
  | error e =>
    rw [made] at h
    cases h
  | ok t =>
    rw [made] at h
    obtain ⟨k, tree, later, named, new, rfl⟩ := makeFrom_ok_eq h
    have name : Manager.under { m.sweepIfDue with tree := t } (nameOf { m.sweepIfDue with tree := t } k) =
        m.under (m.nameOf k) := (same.under _).trans (congrArg _ (same.nameOf k))
    rw [name] at named new
    rw [sweepIfDue_root, sweepIfDue_now] at made
    rw [show ({ m.sweepIfDue with tree := t } : Manager).now = m.now from sweepIfDue_now m] at new
    exact ⟨t, k, tree, made, sweepIfDue_count m ▸ later, named, new, rfl⟩

theorem acquire_error_eq {e : FileError} (h : m.acquire = (.error e, m')) :
    ∃ k, m.count ≤ k ∧ m' = { m.sweepIfDue with tree := m.prepared, count := k } := by
  unfold acquire at h
  simp only at h
  cases made : m.sweepIfDue.tree.ensureAll m.sweepIfDue.now m.sweepIfDue.root with
  | error e =>
    rw [made] at h
    obtain ⟨-, rfl⟩ := Prod.mk.inj h
    have prepared : m.prepared = m.sweepIfDue.tree := by simp only [prepared, made]
    exact ⟨m.count, Nat.le_refl _, by rw [prepared, ← sweepIfDue_count m]⟩
  | ok t =>
    rw [made] at h
    obtain ⟨k, more, rfl⟩ := makeFrom_error_eq (Nat.le_succ _) h
    have prepared : m.prepared = t := by simp only [prepared, made]
    exact ⟨k, sweepIfDue_count m ▸ more, by rw [prepared]⟩

theorem Continues.acquire (m : Manager) : m.Continues m.acquire.2 := by
  refine (Continues.sweepIfDue m).trans ?_
  cases given : m.acquire with
  | mk outcome m' =>
    cases outcome with
    | error e =>
      obtain ⟨k, more, rfl⟩ := acquire_error_eq given
      exact ⟨rfl, rfl, Int.le_refl _, sweepIfDue_count m ▸ more⟩
    | ok path =>
      obtain ⟨t, k, tree, -, later, -, -, rfl⟩ := acquire_ok_eq given
      exact ⟨rfl, rfl, Int.le_refl _, sweepIfDue_count m ▸ Nat.le_of_lt later⟩

end Acquisition

theorem acquire_ok {m m' : Manager} {path : String} (h : m.acquire = (.ok path, m')) :
    placeOf path ∉ m.prepared.places ∧ m'.tree.places = m.prepared.places ++ [placeOf path] := by
  obtain ⟨t, k, tree, made, -, -, new, rfl⟩ := acquire_ok_eq h
  have prepared : m.prepared = t := by
    rw [← sweepIfDue_root, ← sweepIfDue_now] at made
    simp only [Manager.prepared, made]
  obtain ⟨-, free, places⟩ := makeDirectory_eq_ok new
  rw [prepared]
  exact ⟨free, places⟩

theorem acquire_error {m m' : Manager} {e : FileError} (h : m.acquire = (.error e, m')) :
    m'.tree = m.prepared := by
  obtain ⟨k, -, rfl⟩ := acquire_error_eq h
  rfl

theorem mem_places_acquire {m m' : Manager} {path : String} (h : m.acquire = (.ok path, m')) {place : Location}
    (there : place ∈ m'.tree.places) : place ∈ m.tree.places ∨ m.IsAroundRoot place ∨ place = placeOf path := by
  rw [(acquire_ok h).2, List.mem_append, List.mem_singleton] at there
  rcases there with there | rfl
  · exact (mem_places_prepared there).imp id .inl
  · exact .inr (.inr rfl)

theorem isWithin_home_of_acquire {m m' : Manager} {path : String} (rooted : m.tree.IsRooted)
    (h : m.acquire = (.ok path, m')) : isWithin (placeOf path) home = false := by
  cases within : isWithin (placeOf path) home with
  | false => rfl
  | true => exact absurd (isRooted_prepared rooted _ within) (acquire_ok h).1

end AsmScope.Manager
