import AsmScope.Proofs.Files.Changes
import AsmScope.Proofs.Workspace.Numbering

/-! What the sweep does to directories that are in use. It goes by names and ages, and does not know which directories
were handed out and are still held. Nothing else takes a held directory away: not the release of another one, nor the
making of new ones, nor what is written. So a held directory is there just as long as no sweep has found it old. -/

namespace AsmScope
open FileTree

namespace Manager

/-- The sweep of an acquisition takes the place: it is due, and at the turn of the place itself or of a directory
around it, it finds that one as old as the interval. -/
def Sweeps (m : Manager) (place : Location) : Prop :=
  m.sweepIsDue = true ∧ ∃ before outer after, m.candidates = before ++ outer :: after ∧ isWithin outer place = true ∧
    isStale (m.now - m.interval) (before.foldl (sweepOne m.now (m.now - m.interval)) (0, m.tree)).2 outer = true

section Sweep
variable {m : Manager} {place : Location} {now cutoff : Int}

theorem spares_foldl_sweepOne {places : List Location} {swept : Nat × FileTree}
    (clear : ∀ before outer after, places = before ++ outer :: after → isWithin outer place = true →
      isStale cutoff (before.foldl (sweepOne now cutoff) swept).2 outer = false) :
    Spares now place swept.2 (places.foldl (sweepOne now cutoff) swept).2 := by
  induction places generalizing swept with
  | nil => exact .refl ..
  | cons first places ih =>
    have here : Spares now place swept.2 (sweepOne now cutoff swept first).2 := by
      unfold sweepOne
      split
      · rename_i stale
        refine .removeAt ?_ _
        by_contra within
        rw [Bool.not_eq_false] at within
        exact absurd (clear [] first places rfl within) (by simpa using stale)
      · exact .refl ..
    refine here.trans (ih fun before outer after parts within => ?_)
    exact clear (first :: before) outer after (by rw [parts]; rfl) within

theorem isDirectory_foldl_sweepOne (outside : isWithin place home = false) {before after : List Location}
    {outer : Location} {swept : Nat × FileTree} (within : isWithin outer place = true)
    (stale : isStale cutoff (before.foldl (sweepOne now cutoff) swept).2 outer = true) :
    ((before ++ outer :: after).foldl (sweepOne now cutoff) swept).2.isDirectory place = false := by
  rw [List.foldl_append, List.foldl_cons]
  refine foldl_sweepOne_induction (P := fun t => t.isDirectory place = false) (fun t q gone => ?_) _ _ ?_
  · exact isDirectory_removeAt_of_not gone now q
  · rw [sweepOne, if_pos stale, isDirectory, node?_removeAt, within, outside]
    rfl

theorem sweepIfDue_tree (due : m.sweepIsDue = true) :
    m.sweepIfDue.tree = (m.candidates.foldl (sweepOne m.now (m.now - m.interval)) (0, m.tree)).2 := by
  rw [sweepIfDue, if_pos due]
  rfl

theorem spares_sweepIfDue (clear : ¬ m.Sweeps place) : Spares m.now place m.tree m.sweepIfDue.tree := by
  by_cases due : m.sweepIsDue = true
  · rw [sweepIfDue_tree due]
    show Spares m.now place ((0, m.tree) : Nat × FileTree).2 _
    refine spares_foldl_sweepOne fun before outer after parts within => ?_
    by_contra stale
    rw [Bool.not_eq_false] at stale
    exact clear ⟨due, before, outer, after, parts, within, stale⟩
  · rw [sweepIfDue, if_neg due]
    exact .refl ..

theorem isDirectory_sweepIfDue (outside : isWithin place home = false) (h : m.Sweeps place) :
    m.sweepIfDue.tree.isDirectory place = false := by
  obtain ⟨due, before, outer, after, parts, within, stale⟩ := h
  rw [sweepIfDue_tree due, parts]
  exact isDirectory_foldl_sweepOne outside within stale

end Sweep

theorem pattern_eq {m : Manager} (slashless : '/' ∉ m.settings.namePrefix.toList)
    (proper : m.settings.namePrefix ≠ "*") :
    m.pattern = [.wild (Wild.read (m.settings.namePrefix.toList ++ ['*']))] := by
  have letters : (m.settings.namePrefix ++ "*").toList = m.settings.namePrefix.toList ++ ['*'] := by simp
  have alone : '/' ∉ m.settings.namePrefix.toList ++ ['*'] := by simp [slashless]
  have inner : m.settings.namePrefix.toList ++ ['*'] ≠ ['*', '*'] := by
    intro same
    have alike : m.settings.namePrefix.toList ++ ['*'] = "*".toList ++ ['*'] := same
    exact proper (String.toList_inj.mp (List.append_cancel_right alike))
  rw [Manager.pattern, WildStep.read, letters, List.splitOn_eq_singleton alone]
  have starred : '*' ∈ m.settings.namePrefix.toList ++ ['*'] := by simp
  have other {s : List Char} (plain : '*' ∉ s) : m.settings.namePrefix.toList ++ ['*'] ≠ s :=
    fun same => plain (same ▸ starred)
  have wild : (m.settings.namePrefix.toList ++ ['*']).any WildStep.isWildChar = true :=
    List.any_eq_true.mpr ⟨'*', starred, rfl⟩
  have kept : [m.settings.namePrefix.toList ++ ['*']].filter (fun name => decide (name ≠ [] ∧ name ≠ ['.'])) =
      [m.settings.namePrefix.toList ++ ['*']] := by
    refine List.filter_eq_self.mpr fun name there => ?_
    rw [List.mem_singleton.mp there]
    exact decide_eq_true ⟨other (by decide), other (by decide)⟩
  rw [kept, List.map_singleton, WildStep.ofName, if_neg (other (by decide)), if_neg inner, if_pos wild]

theorem mem_candidates {m : Manager} (slashless : '/' ∉ m.settings.namePrefix.toList)
    (proper : m.settings.namePrefix ≠ "*") {place : Location} (h : place ∈ m.candidates) :
    m.root ≠ "" ∧ ∃ name, place = name :: placeOf m.root := by
  have filled : m.root ≠ "" := by
    intro none
    have nowhere : m.candidates = [] := by simp [candidates, existing, locate, none, Except.bind]
    rw [nowhere] at h
    cases h
  refine ⟨filled, ?_⟩
  unfold candidates at h
  split at h
  · rename_i root n found
    obtain ⟨rfl, -⟩ := existing_eq_ok found
    split at h
    · rw [pattern_eq slashless proper] at h
      simp only [WildStep.places, List.mem_flatMap, List.mem_singleton] at h
      obtain ⟨inner, accepted, rfl⟩ := h
      have child := (List.mem_filter.mp (List.mem_filter.mp accepted).1).2
      cases place with
      | nil => cases child
      | cons name outer =>
        rw [Bool.and_eq_true, beq_iff_eq] at child
        exact ⟨name, congrArg _ child.2⟩
    · cases h
  · cases h

theorem not_sweeps_of_young {m : Manager} (slashless : '/' ∉ m.settings.namePrefix.toList)
    (proper : m.settings.namePrefix ≠ "*") {n : Nat} {time : Int} (past : time ≤ m.now)
    (young : m.now - m.interval < time)
    (since : ∀ node ∈ m.tree.node? (placeOf (m.under (m.nameOf n))), time ≤ node.modified) :
    ¬ m.Sweeps (placeOf (m.under (m.nameOf n))) := by
  rintro ⟨-, before, outer, after, parts, within, stale⟩
  obtain ⟨filled, name, rfl⟩ :=
    mem_candidates slashless proper (parts ▸ List.mem_append_right before (List.mem_cons_self ..))
  have itself : name :: placeOf m.root = placeOf (m.under (m.nameOf n)) := by
    have suffix := List.isSuffixOf_iff_suffix.mp within
    rw [placeOf_nameOf_of_slashless slashless filled] at suffix ⊢
    exact suffix.eq_of_length rfl
  rw [itself] at stale
  have young' : ∀ node ∈ (before.foldl (sweepOne m.now (m.now - m.interval)) (0, m.tree)).2.node?
      (placeOf (m.under (m.nameOf n))), time ≤ node.modified :=
    foldl_sweepOne_induction (P := fun t => ∀ node ∈ t.node? (placeOf (m.under (m.nameOf n))), time ≤ node.modified)
      (fun t q since => since_removeAt past since q) _ _ since
  rw [isStale, Option.any_eq_true] at stale
  obtain ⟨node, there, old⟩ := stale
  have least := young' node there
  simp only [Bool.and_eq_true, decide_eq_true_eq] at old
  omega

section Acquisition
variable {m : Manager} {place : Location}

theorem spares_acquire (around : ¬ m.IsAroundRoot place)
    (other : ∀ path, m.acquire.1 = .ok path → place ≠ placeOf path) :
    Spares m.now place m.sweepIfDue.tree m.acquire.2.tree := by
  have root {t : FileTree} (made : m.sweepIfDue.tree.ensureAll m.now m.root = .ok t) :
      Spares m.now place m.sweepIfDue.tree t := by
    refine .ensureFrom made fun outer suffix same => around ⟨outer.reverse, ?_, same⟩
    exact List.reverse_suffix.mp (by rwa [List.reverse_reverse])
  cases given : m.acquire with
  | mk outcome m' =>
    cases outcome with
    | error e =>
      rw [acquire_error given, prepared]
      split
      · rename_i made
        exact root (by rwa [sweepIfDue_root, sweepIfDue_now] at made)
      · exact .refl ..
    | ok path =>
      obtain ⟨t, k, tree, made, -, -, new, rfl⟩ := acquire_ok_eq given
      have elsewhere := other path (by rw [given])
      exact (root made).trans (.makeDirectory new elsewhere)

theorem isRooted_acquire (rooted : m.tree.IsRooted) : m.acquire.2.tree.IsRooted := by
  cases given : m.acquire with
  | mk outcome m' =>
    cases outcome with
    | error e =>
      rw [acquire_error given]
      exact isRooted_prepared rooted
    | ok path =>
      refine (isRooted_prepared rooted).of_subset ?_
      rw [(acquire_ok given).2]
      exact List.subset_append_left ..

/-- The directory that was handed out is there, as old as the moment, and it is no directory around the root. -/
theorem isDirectory_of_acquire {m' : Manager} {path : String} (rooted : m.tree.IsRooted)
    (h : m.acquire = (.ok path, m')) :
    m'.tree.isDirectory (placeOf path) = true ∧ (∀ n ∈ m'.tree.node? (placeOf path), m'.now ≤ n.modified) ∧
      ¬ m.IsAroundRoot (placeOf path) := by
  obtain ⟨t, k, tree, made, -, -, new, rfl⟩ := acquire_ok_eq h
  obtain ⟨-, free, -⟩ := makeDirectory_eq_ok new
  have there := node?_of_makeDirectory new
  refine ⟨?_, fun n hn => ?_, ?_⟩
  · rw [isDirectory, there]
    rfl
  · obtain rfl := Option.some.inj (there.symm.trans hn)
    exact Int.le_of_eq (sweepIfDue_now m)
  · rintro ⟨outer, around, same⟩
    rw [same] at free
    exact free (mem_places_of_ensureAll (isRooted_sweepIfDue rooted) made around)

end Acquisition

end Manager
end AsmScope
