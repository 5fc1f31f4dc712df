import AsmScope.Proofs.Files.Wild
import AsmScope.Proofs.Workspace.Custody

/-! What a sweep takes away, and when one begins. It takes the directories that were left behind in the root and what is
in them, and nothing beside them. The sweeps that acquisitions begin follow each other at the distance of the interval
or more, and one that comes so late begins one. -/

namespace AsmScope
open FileTree

namespace Manager

/-- A directory directly in the root, if that is one itself, whose name begins with the prefix, and that old. -/
def IsLeftBehind (m : Manager) (age : Int) (place : Location) : Prop :=
  m.tree.isDirectoryAt m.root = true ∧
    ∃ name, place = name :: placeOf m.root ∧ m.settings.namePrefix.toList <+: name.toList ∧
      ∃ n, m.tree.node? place = some n ∧ n.content = none ∧ n.modified ≤ m.now - age

/-- A tree without some directories of one directory, which is marked if there were any. -/
structure Without (now : Int) (t u : FileTree) (root : Location) (removed : List Location) : Prop where
  nodup : removed.Nodup
  node? : ∀ q, u.node? q =
    if ∃ place ∈ removed, isWithin place q = true then none
    else if q = root ∧ removed ≠ [] then (t.node? q).map fun n => { n with modified := now }
    else t.node? q

section Removal
variable {t : FileTree} {root place q : Location} {now cutoff : Int} {places : List Location}

theorem isStale_iff : isStale cutoff t place = true ↔
    ∃ n, t.node? place = some n ∧ n.content = none ∧ n.modified ≤ cutoff := by
  simp [isStale, Option.any_eq_true]

theorem isWithin_siblings {name other : String} :
    isWithin (name :: root) (other :: root) = true ↔ name :: root = other :: root := by
  refine ⟨fun within => ?_, fun same => same ▸ isWithin_self _⟩
  exact (List.isSuffixOf_iff_suffix.mp within).eq_of_length rfl

theorem node?_removeAt_of_clear (clear : isWithin place home = false) :
    (t.removeAt now place).node? q =
      if isWithin place q then none
      else if q = place.tail then (t.node? q).map fun n => { n with modified := now } else t.node? q := by
  rw [node?_removeAt]
  cases within : isWithin place q with
  | false => rfl
  | true =>
    have outside : isWithin q home = false := by
      by_contra inner
      rw [Bool.not_eq_false] at inner
      have around := (List.isSuffixOf_iff_suffix.mp within).trans (List.isSuffixOf_iff_suffix.mp inner)
      rw [isWithin, List.isSuffixOf_iff_suffix.mpr around] at clear
      cases clear
    rw [outside]
    rfl

theorem isStale_removeAt_sibling {name other : String} (clear : isWithin (name :: root) home = false) :
    isStale cutoff (t.removeAt now (name :: root)) (other :: root) = true ↔
      other :: root ≠ name :: root ∧ isStale cutoff t (other :: root) = true := by
  rw [isStale, isStale, node?_removeAt_of_clear clear]
  by_cases same : other :: root = name :: root
  · simp [same, isWithin_self]
  · have apart : isWithin (name :: root) (other :: root) = false := by
      rwa [Bool.eq_false_iff, ne_eq, isWithin_siblings, eq_comm]
    simp [apart, same]

theorem Without.cons {u : FileTree} {name : String} {removed : List Location}
    (clear : isWithin (name :: root) home = false) (new : name :: root ∉ removed)
    (rest : Without now (t.removeAt now (name :: root)) u root removed) :
    Without now t u root ((name :: root) :: removed) := by
  refine ⟨List.nodup_cons.mpr ⟨new, rest.nodup⟩, fun q => ?_⟩
  rw [rest.node?, node?_removeAt_of_clear clear]
  simp only [List.exists_mem_cons_iff]
  by_cases within : isWithin (name :: root) q = true
  · simp [within]
  · by_cases further : ∃ place ∈ removed, isWithin place q = true
    · rw [if_pos further, if_pos (.inr further)]
    · rw [if_neg further, if_neg within, if_neg (not_or.mpr ⟨within, further⟩)]
      by_cases marked : q = root
      · simp [marked, Function.comp_def]
      · simp [marked]

/-- Those that are old go, each once, and what is in them. -/
theorem foldl_sweepOne_children (inside : ∀ place ∈ places, ∃ name, place = name :: root)
    (clear : ∀ place ∈ places, isStale cutoff t place = true → isWithin place home = false) (count : Nat) :
    ∃ removed, (∀ place, place ∈ removed ↔ place ∈ places ∧ isStale cutoff t place = true) ∧
      (places.foldl (sweepOne now cutoff) (count, t)).1 = count + removed.length ∧
      Without now t (places.foldl (sweepOne now cutoff) (count, t)).2 root removed := by
  induction places generalizing t count with
  | nil => exact ⟨[], by simp, rfl, List.nodup_nil, fun q => by simp⟩
  | cons first places ih =>
    rw [List.forall_mem_cons] at inside clear
    obtain ⟨⟨name, rfl⟩, inside⟩ := inside
    rw [List.foldl_cons, sweepOne]
    by_cases stale : isStale cutoff t (name :: root) = true
    · have outside := clear.1 stale
      have beside {place : Location} (there : place ∈ places) :
          isStale cutoff (t.removeAt now (name :: root)) place = true ↔
            place ≠ name :: root ∧ isStale cutoff t place = true := by
        obtain ⟨other, rfl⟩ := inside _ there
        exact isStale_removeAt_sibling outside
      obtain ⟨removed, mem, number, without⟩ := ih inside
        (fun place there old => clear.2 place there ((beside there).mp old).2) (count + 1)
      have others (place : Location) : place ∈ removed ↔
          place ∈ places ∧ place ≠ name :: root ∧ isStale cutoff t place = true := by
        rw [mem]
        exact and_congr_right beside
      rw [if_pos stale]
      refine ⟨(name :: root) :: removed, fun place => ?_, ?_, ?_⟩
      · rw [List.mem_cons, others, List.mem_cons]
        by_cases same : place = name :: root
        · simp [same, stale]
        · simp [same]
      · rw [number, List.length_cons, Nat.add_assoc, Nat.add_comm 1]
      · exact without.cons outside fun there => ((others _).mp there).2.1 rfl
    · rw [if_neg stale]
      obtain ⟨removed, mem, number, without⟩ := ih inside clear.2 count
      refine ⟨removed, fun place => ?_, number, without⟩
      rw [mem, List.mem_cons]
      refine ⟨fun both => ⟨.inr both.1, both.2⟩, ?_⟩
      rintro ⟨rfl | there, old⟩
      · exact absurd old stale
      · exact ⟨there, old⟩

end Removal

section Sweep
variable {m : Manager} {age : Int}

/-- The prefix is the beginning of a name, and no sign in it stands for others. -/
def HasPlainPrefix (m : Manager) : Prop :=
  ∀ c ∈ m.settings.namePrefix.toList, c ≠ '/' ∧ WildStep.isWildChar c = false

theorem mem_children_iff {t : FileTree} {root place : Location} :
    place ∈ t.children root ↔ place ∈ t.places ∧ ∃ name, place = name :: root := by
  rw [children, List.mem_filter]
  refine and_congr_right fun _ => ?_
  cases place with
  | nil => simp
  | cons name outer => simp

theorem mem_candidates_iff (plain : m.HasPlainPrefix) {place : Location} :
    place ∈ m.candidates ↔ m.tree.isDirectoryAt m.root = true ∧ place ∈ m.tree.places ∧
      ∃ name, place = name :: placeOf m.root ∧ m.settings.namePrefix.toList <+: name.toList := by
  have slashless : '/' ∉ m.settings.namePrefix.toList := fun there => (plain _ there).1 rfl
  have proper : m.settings.namePrefix ≠ "*" := by
    intro same
    exact absurd (plain '*' (by simp [same])).2 (by decide)
  rw [candidates, isDirectoryAt]
  cases found : m.tree.existing m.root with
  | error fault => simp
  | ok there =>
    obtain ⟨root, n⟩ := there
    obtain ⟨rfl, -⟩ := existing_eq_ok found
    simp only
    split
    · rename_i directory
      rw [pattern_eq slashless proper, and_iff_right directory]
      simp only [WildStep.places, List.flatMap_singleton', List.mem_filter, mem_children_iff, and_assoc,
        Wild.accepts_star_iff fun c there => (plain c there).2]
      refine and_congr_right fun _ => ⟨?_, ?_⟩
      · rintro ⟨⟨name, rfl⟩, begins⟩
        exact ⟨name, rfl, begins⟩
      · rintro ⟨name, rfl, begins⟩
        exact ⟨⟨name, rfl⟩, begins⟩
    · rename_i file
      simp [file]

theorem isLeftBehind_iff (plain : m.HasPlainPrefix) {place : Location} :
    m.IsLeftBehind age place ↔ place ∈ m.candidates ∧ isStale (m.now - age) m.tree place = true := by
  rw [mem_candidates_iff plain, isStale_iff, IsLeftBehind]
  constructor
  · rintro ⟨directory, name, rfl, begins, n, there, old⟩
    refine ⟨⟨directory, ?_, name, rfl, begins⟩, n, there, old⟩
    rw [← has_iff, has, there]
    rfl
  · rintro ⟨⟨directory, -, name, rfl, begins⟩, old⟩
    exact ⟨directory, name, rfl, begins, old⟩

theorem sweep_removes (plain : m.HasPlainPrefix)
    (clear : ∀ place, m.IsLeftBehind age place → isWithin place home = false) :
    ∃ removed, (∀ place, place ∈ removed ↔ m.IsLeftBehind age place) ∧ (m.sweep age).1 = removed.length ∧
      Without m.now m.tree (m.sweep age).2.tree (placeOf m.root) removed := by
  have inside : ∀ place ∈ m.candidates, ∃ name, place = name :: placeOf m.root := fun place there =>
    ((mem_candidates_iff plain).mp there).2.2.imp fun _ both => both.1
  have clear' (place : Location) (there : place ∈ m.candidates) (old : isStale (m.now - age) m.tree place = true) :
      isWithin place home = false := clear place ((isLeftBehind_iff plain).mpr ⟨there, old⟩)
  obtain ⟨removed, mem, number, without⟩ := foldl_sweepOne_children inside clear' 0
  refine ⟨removed, fun place => (mem place).trans (isLeftBehind_iff plain).symm, ?_, without⟩
  rw [← Nat.zero_add removed.length, ← number]
  rfl

theorem sweepIsDue_iff (m : Manager) : m.sweepIsDue = true ↔ m.lastSweep + m.interval ≤ m.now := by
  rw [sweepIsDue, decide_eq_true_eq]
  omega

def provide (m : Manager) : Except FileError String × Manager :=
  match m.tree.ensureAll m.now m.root with
  | .error e => (.error e, m)
  | .ok tree => makeFrom { m with tree := tree } (tree.nodes.length + 1) (m.count + 1)

theorem acquire_eq_provide (m : Manager) :
    m.acquire =
      if m.sweepIsDue then provide { (m.sweep m.interval).2 with lastSweep := m.now } else m.provide := by
  unfold acquire sweepIfDue
  split <;> rfl

theorem acquire_lastSweep (m : Manager) :
    m.acquire.2.lastSweep = if m.sweepIsDue then m.now else m.lastSweep := by
  have swept : m.sweepIfDue.lastSweep = if m.sweepIsDue then m.now else m.lastSweep := by
    unfold sweepIfDue
    split <;> rfl
  rw [← swept]
  cases given : m.acquire with
  | mk outcome m' =>
    cases outcome with
    | error e =>
      obtain ⟨k, -, rfl⟩ := acquire_error_eq given
      rfl
    | ok path =>
      obtain ⟨t, k, tree, -, -, -, -, rfl⟩ := acquire_ok_eq given
      rfl

end Sweep
end Manager

namespace Custody

def sweepTimes (c : Custody) : List Event → List Int
  | [] => []
  | e :: events =>
    if e = .acquire ∧ c.manager.sweepIsDue = true then c.manager.now :: (c.step e).sweepTimes events
    else (c.step e).sweepTimes events

theorem lastSweep_step (c : Custody) (e : Event) :
    (c.step e).manager.lastSweep =
      if e = .acquire ∧ c.manager.sweepIsDue = true then c.manager.now else c.manager.lastSweep := by
  cases e with
  | acquire =>
    rw [step, acquire, Manager.acquire_lastSweep]
    simp
  | release path =>
    rw [step, release]
    split <;> rfl
  | pass nanos => rfl
  | write path data =>
    rw [step, write]
    split <;> rfl

theorem lastSweep_run (c : Custody) (events : List Event) :
    (c.run events).manager.lastSweep = (c.sweepTimes events).getLastD c.manager.lastSweep := by
  induction events generalizing c with
  | nil => rfl
  | cons e events ih =>
    rw [run_cons, ih, lastSweep_step, sweepTimes]
    split
    · rw [List.getLastD_cons]
    · rfl

theorem pairwise_sweepTimes (c : Custody) (events : List Event) :
    (c.manager.lastSweep :: c.sweepTimes events).Pairwise
      fun earlier later => earlier + c.manager.interval ≤ later := by
  induction events generalizing c with
  | nil => exact List.pairwise_singleton ..
  | cons e events ih =>
    have after := ih (c.step e)
    rw [lastSweep_step, (c.continues_step e).interval] at after
    rw [sweepTimes]
    split
    · rename_i sweeps
      rw [if_pos sweeps] at after
      have due := (Manager.sweepIsDue_iff _).mp sweeps.2
      have lasting : 0 ≤ c.manager.interval := by
        unfold Manager.interval nanosPerSecond
        omega
      refine List.pairwise_cons.mpr ⟨fun time there => ?_, after⟩
      rcases List.mem_cons.mp there with rfl | there
      · exact due
      · have later := (List.pairwise_cons.mp after).1 time there
        omega
    · rename_i waits
      rwa [if_neg waits] at after

/-- A sweep removes the directories that were left behind, each with what is in it, counts them and touches nothing
else but the time of the root. The sweeps that acquisitions begin are at least the interval apart, the first one from
the manager's beginning, and an acquisition that comes that late begins one. -/
theorem sweeping_exact_and_paced (m : Manager) :
    (m.HasPlainPrefix → ∀ age, (∀ place, m.IsLeftBehind age place → isWithin place home = false) →
      ∃ removed, (∀ place, place ∈ removed ↔ m.IsLeftBehind age place) ∧ (m.sweep age).1 = removed.length ∧
        (m.sweep age).2 = { m with tree := (m.sweep age).2.tree } ∧
        Manager.Without m.now m.tree (m.sweep age).2.tree (placeOf m.root) removed) ∧
    (m.lastSweep = m.now → ∀ events : List Event,
      (m.now :: (start m).sweepTimes events).Pairwise (fun earlier later => earlier + m.interval ≤ later) ∧
      ∀ later, later = ((start m).run events).manager →
        (later.sweepIsDue = true ↔ ((start m).sweepTimes events).getLastD m.now + m.interval ≤ later.now) ∧
        later.acquire =
          if later.sweepIsDue then Manager.provide { (later.sweep m.interval).2 with lastSweep := later.now }
          else later.provide) := by
  refine ⟨fun plain age clear => ?_, fun new events => ⟨?_, ?_⟩⟩
  · obtain ⟨removed, mem, number, without⟩ := Manager.sweep_removes plain clear
    exact ⟨removed, mem, number, rfl, without⟩
  · rw [← new]
    exact (start m).pairwise_sweepTimes events
  · rintro later rfl
    have same : ((start m).run events).manager.interval = m.interval := ((start m).continues_run events).interval
    refine ⟨?_, ?_⟩
    · rw [Manager.sweepIsDue_iff, lastSweep_run, same, ← new]
      rfl
    · rw [← same]
      exact Manager.acquire_eq_provide _

/-- A root with an old directory and a new one, an old file and an old directory of someone else. -/
def litteredManager : Manager :=
  { plainManager with tree := ⟨plainManager.tree.nodes ++
      [("ws" :: home, ⟨none, 0⟩), ("cexplorer-job7" :: "ws" :: home, ⟨none, -600⟩),
        ("example.cpp" :: "cexplorer-job7" :: "ws" :: home, ⟨some [], 0⟩),
        ("cexplorer-job8" :: "ws" :: home, ⟨none, -599⟩), ("cexplorer-notes" :: "ws" :: home, ⟨some [], -600⟩),
        ("other" :: "ws" :: home, ⟨none, -600⟩)]⟩ }

theorem sweeping_exact_and_paced_littered :
    litteredManager.HasPlainPrefix ∧
      (∀ place, litteredManager.IsLeftBehind 600 place → isWithin place home = false) ∧
      litteredManager.lastSweep = litteredManager.now ∧ (litteredManager.sweep 600).1 = 1 ∧
      (∃ removed : List Location, removed.length = 1 ∧ "cexplorer-job7" :: "ws" :: home ∈ removed ∧
        "cexplorer-job8" :: "ws" :: home ∉ removed) ∧
      (start litteredManager).sweepTimes [.pass 599000000000, .acquire, .pass 1000000000, .acquire] =
        [600000000000] ∧
      [0, 600000000000].Pairwise (fun earlier later : Int => earlier + litteredManager.interval ≤ later) := by
  have root : placeOf litteredManager.root = "ws" :: home := by decide +kernel
  have plain : litteredManager.HasPlainPrefix := by
    have all : (litteredManager.settings.namePrefix.toList.all fun c => c != '/' && !WildStep.isWildChar c) = true := by
      decide +kernel
    intro c there
    simpa using List.all_eq_true.mp all c there
  have clear : ∀ place, litteredManager.IsLeftBehind 600 place → isWithin place home = false := by
    rintro place ⟨-, name, rfl, -⟩
    by_contra within
    rw [root, Bool.not_eq_false] at within
    exact absurd (List.isSuffixOf_iff_suffix.mp within).length_le (by simp [home])
  obtain ⟨sweep, paced⟩ := sweeping_exact_and_paced litteredManager
  have one : (litteredManager.sweep 600).1 = 1 := by decide +kernel
  have times : (start litteredManager).sweepTimes [.pass 599000000000, .acquire, .pass 1000000000, .acquire] =
      [600000000000] := by
    decide +kernel
  refine ⟨plain, clear, rfl, one, ?_, times, times ▸ (paced rfl _).1⟩
  obtain ⟨removed, mem, number, -, -⟩ := sweep plain 600 clear
  refine ⟨removed, number.symm.trans one, (mem _).mpr ?_, fun there => ?_⟩
  · exact ⟨by decide +kernel, _, by rw [root], by decide +kernel, _, rfl, rfl, by decide⟩
  · obtain ⟨-, -, -, -, n, found, -, old⟩ := (mem _).mp there
    obtain rfl := Option.some.inj found
    exact absurd old (by decide)

end Custody
end AsmScope
