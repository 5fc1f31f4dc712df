import AsmScope.Proofs.Workspace.Sweeping

/-! The directories of one manager over time. Who was given one holds it until it is returned; meanwhile others come
and go, time passes, and files are written anywhere. A session is an acquisition with the return of its directory
somewhere later. -/

namespace AsmScope
open FileTree

inductive Event where
  | acquire
  | release (path : String)
  | pass (nanos : Nat)
  | write (path : String) (data : Text.Octets)
  deriving DecidableEq

/-- A manager with the paths that were handed out and those that were given back. -/
structure Custody where
  manager : Manager
  given : List String
  returned : List String

namespace Custody

def start (m : Manager) : Custody := ⟨m, [], []⟩

def acquire (c : Custody) : Custody :=
  { c with manager := c.manager.acquire.2, given := c.manager.acquire.1.toOption.toList ++ c.given }

/-- Only what was handed out can be given back. -/
def release (c : Custody) (path : String) : Custody :=
  if path ∈ c.given then { c with manager := c.manager.release path, returned := path :: c.returned } else c

def write (c : Custody) (path : String) (data : Text.Octets) : Custody :=
  match c.manager.tree.write c.manager.now path data with
  | .ok tree => { c with manager := { c.manager with tree := tree } }
  | .error _ => c

def step (c : Custody) : Event → Custody
  | .acquire => c.acquire
  | .release path => c.release path
  | .pass nanos => { c with manager := c.manager.pass nanos }
  | .write path data => c.write path data

def run (c : Custody) (events : List Event) : Custody := events.foldl step c

theorem run_cons (c : Custody) (e : Event) (events : List Event) : c.run (e :: events) = (c.step e).run events := rfl

theorem run_append (c : Custody) (before after : List Event) : c.run (before ++ after) = (c.run before).run after :=
  List.foldl_append

theorem continues_step (c : Custody) (e : Event) : c.manager.Continues (c.step e).manager := by
  cases e with
  | acquire => exact Manager.Continues.acquire c.manager
  | release path =>
    rw [step, release]
    split
    · exact ⟨rfl, rfl, Int.le_refl _, Nat.le_refl _⟩
    · exact .refl _
  | pass nanos => exact ⟨rfl, rfl, Int.le_add_of_nonneg_right (Int.natCast_nonneg _), Nat.le_refl _⟩
  | write path data =>
    rw [step, write]
    split
    · exact ⟨rfl, rfl, Int.le_refl _, Nat.le_refl _⟩
    · exact .refl _

theorem continues_run (c : Custody) (events : List Event) : c.manager.Continues (c.run events).manager := by
  induction events generalizing c with
  | nil => exact .refl _
  | cons e events ih => exact (c.continues_step e).trans (ih _)

theorem returned_subset_step (c : Custody) (e : Event) : c.returned ⊆ (c.step e).returned := by
  cases e with
  | acquire => exact List.Subset.refl _
  | release path =>
    rw [step, release]
    split
    · exact List.subset_cons_self ..
    · exact List.Subset.refl _
  | pass nanos => exact List.Subset.refl _
  | write path data =>
    rw [step, write]
    split <;> exact List.Subset.refl _

theorem returned_subset_run (c : Custody) (events : List Event) : c.returned ⊆ (c.run events).returned := by
  induction events generalizing c with
  | nil => exact List.Subset.refl _
  | cons e events ih => exact List.Subset.trans (c.returned_subset_step e) (ih _)

def IsNumbered (c : Custody) (path : String) : Prop :=
  ∃ n ≤ c.manager.count, path = Path.normal (c.manager.under (c.manager.nameOf n))

theorem IsNumbered.step {c : Custody} {path : String} (h : c.IsNumbered path) (e : Event) :
    (c.step e).IsNumbered path := by
  obtain ⟨n, old, rfl⟩ := h
  have same := c.continues_step e
  exact ⟨n, Nat.le_trans old same.count, by rw [same.under, same.nameOf]⟩

structure Sound (c : Custody) : Prop where
  rooted : c.manager.tree.IsRooted
  numbered : ∀ path ∈ c.given, c.IsNumbered path

theorem sound_start {m : Manager} (rooted : m.tree.IsRooted) : (start m).Sound := ⟨rooted, by simp [start]⟩

theorem isNumbered_acquire {c : Custody} {path : String} (given : c.manager.acquire.1 = .ok path) :
    c.acquire.IsNumbered path := by
  have same := Manager.Continues.acquire c.manager
  obtain ⟨t, k, tree, -, -, named, -, ended⟩ :=
    Manager.acquire_ok_eq (Prod.ext given rfl : c.manager.acquire = (.ok path, c.manager.acquire.2))
  refine ⟨k, ?_, ?_⟩
  · rw [acquire, ended]
  · rw [named, acquire, same.under, same.nameOf]

theorem Sound.step {c : Custody} (h : c.Sound) (e : Event) : (c.step e).Sound := by
  have earlier (path : String) (there : path ∈ c.given) := (h.numbered path there).step e
  cases e with
  | acquire =>
    refine ⟨Manager.isRooted_acquire h.rooted, fun path there => ?_⟩
    rcases List.mem_append.mp there with new | there
    · refine isNumbered_acquire ?_
      cases given : c.manager.acquire.1 with
      | error e => simp [given, Except.toOption] at new
      | ok next =>
        rw [given] at new
        rw [List.mem_singleton.mp new]
    · exact earlier path there
  | release path =>
    rw [Custody.step, Custody.release] at earlier ⊢
    split
    · rename_i there
      rw [if_pos there] at earlier
      exact ⟨h.rooted.remove _ path, earlier⟩
    · exact h
  | pass nanos => exact ⟨h.rooted, earlier⟩
  | write path data =>
    rw [Custody.step, Custody.write] at earlier ⊢
    split
    · rename_i written
      rw [written] at earlier
      exact ⟨h.rooted.write written, earlier⟩
    · exact h

theorem Sound.run {c : Custody} (h : c.Sound) (events : List Event) : (c.run events).Sound := by
  induction events generalizing c with
  | nil => exact h
  | cons e events ih => exact ih (h.step e)

/-- The path of a directory that was handed out: numbered, and away from where paths begin and from the root. -/
structure HandedOut (c : Custody) (path : String) : Prop where
  numbered : c.IsNumbered path
  outside : isWithin (placeOf path) home = false
  around : ¬ c.manager.IsAroundRoot (placeOf path)

section Step
variable {c : Custody} {path : String}

theorem HandedOut.step (h : c.HandedOut path) (e : Event) : (c.step e).HandedOut path where
  numbered := h.numbered.step e
  outside := h.outside
  around := by
    have same := (c.continues_step e).root
    have around := h.around
    rwa [Manager.IsAroundRoot, same]

theorem apart {other : String} (h : c.IsNumbered path) (h' : c.IsNumbered other) (different : other ≠ path) :
    isWithin (placeOf other) (placeOf path) = false := by
  obtain ⟨n, -, rfl⟩ := h
  obtain ⟨k, -, rfl⟩ := h'
  by_contra within
  rw [Bool.not_eq_false, placeOf_normal, placeOf_normal] at within
  exact different (by rw [Manager.number_eq_of_isWithin within])

theorem ne_of_acquire (h : c.IsNumbered path) {next : String} (given : c.manager.acquire.1 = .ok next) :
    placeOf path ≠ placeOf next := by
  obtain ⟨t, k, tree, -, later, named, -, -⟩ :=
    Manager.acquire_ok_eq (Prod.ext given rfl : c.manager.acquire = (.ok next, c.manager.acquire.2))
  obtain ⟨n, old, rfl⟩ := h
  intro same
  rw [named, placeOf_normal, placeOf_normal] at same
  have number := Manager.number_eq_of_isWithin (same ▸ isWithin_self _ :
    isWithin (placeOf (c.manager.under (c.manager.nameOf n))) (placeOf (c.manager.under (c.manager.nameOf k))) = true)
  omega

/-- A directory that is held is spared by all that happens, but for a sweep that takes it. -/
theorem spares_step (sound : c.Sound) (h : c.HandedOut path) {e : Event} (held : path ∉ (c.step e).returned)
    (clear : e = .acquire → ¬ c.manager.Sweeps (placeOf path)) :
    Spares c.manager.now (placeOf path) c.manager.tree (c.step e).manager.tree := by
  cases e with
  | acquire =>
    exact (Manager.spares_sweepIfDue (clear rfl)).trans
      (Manager.spares_acquire h.around fun next given => ne_of_acquire h.numbered given)
  | release other =>
    rw [step, release] at held ⊢
    split
    · rename_i there
      rw [if_pos there] at held
      have different : other ≠ path := fun same => held (same ▸ List.mem_cons_self ..)
      exact .remove (apart h.numbered (sound.numbered other there) different) _
    · exact .refl ..
  | pass nanos => exact .refl ..
  | write file data =>
    rw [step, write]
    split
    · rename_i written
      exact .write written _
    · exact .refl ..

theorem isDirectory_step (sound : c.Sound) (h : c.HandedOut path) {e : Event} (held : path ∉ (c.step e).returned) :
    (c.step e).manager.tree.isDirectory (placeOf path) = true ↔
      c.manager.tree.isDirectory (placeOf path) = true ∧ (e = .acquire → ¬ c.manager.Sweeps (placeOf path)) := by
  by_cases clear : e = .acquire → ¬ c.manager.Sweeps (placeOf path)
  · rw [(spares_step sound h held clear).directory]
    exact ⟨fun there => ⟨there, clear⟩, And.left⟩
  · refine ⟨fun there => ?_, fun both => absurd both.2 clear⟩
    rw [Classical.not_imp, not_not] at clear
    obtain ⟨rfl, sweeps⟩ := clear
    have spared := Manager.spares_acquire h.around fun next given => ne_of_acquire h.numbered given
    rw [show (c.step .acquire).manager.tree = c.manager.acquire.2.tree from rfl, spared.directory,
      Manager.isDirectory_sweepIfDue h.outside sweeps] at there
    cases there

end Step

section Run
variable {c : Custody} {path : String}

theorem isDirectory_run (sound : c.Sound) (h : c.HandedOut path) (later : List Event)
    (held : path ∉ (c.run later).returned) :
    (c.run later).manager.tree.isDirectory (placeOf path) = true ↔
      c.manager.tree.isDirectory (placeOf path) = true ∧
        ∀ earlier, earlier ++ [.acquire] <+: later → ¬ (c.run earlier).manager.Sweeps (placeOf path) := by
  induction later generalizing c with
  | nil =>
    refine ⟨fun there => ⟨there, fun earlier first => ?_⟩, And.left⟩
    exact absurd (List.prefix_nil.mp first) (by simp)
  | cons e later ih =>
    have held' : path ∉ (c.step e).returned := fun there => held (returned_subset_run _ later there)
    rw [run_cons, ih (sound.step e) (h.step e) held, isDirectory_step sound h held', and_assoc]
    refine and_congr_right fun _ => ⟨fun ⟨now, after⟩ earlier first => ?_, fun all => ⟨fun acquires => ?_, ?_⟩⟩
    · cases earlier with
      | nil => exact now (List.cons_prefix_cons.mp first).1.symm
      | cons d earlier =>
        obtain ⟨rfl, rest⟩ := List.cons_prefix_cons.mp first
        exact after earlier rest
    · rw [acquires] at all
      exact all [] ⟨later, rfl⟩
    · exact fun earlier first => all (e :: earlier) (List.cons_prefix_cons.mpr ⟨rfl, first⟩)

theorem isDirectory_run_of_young (sound : c.Sound) (h : c.HandedOut path) (later : List Event)
    (held : path ∉ (c.run later).returned) (slashless : '/' ∉ c.manager.settings.namePrefix.toList)
    (proper : c.manager.settings.namePrefix ≠ "*") {time : Int} (past : time ≤ c.manager.now)
    (young : (c.run later).manager.now < time + c.manager.interval)
    (since : ∀ n ∈ c.manager.tree.node? (placeOf path), time ≤ n.modified)
    (there : c.manager.tree.isDirectory (placeOf path) = true) :
    (c.run later).manager.tree.isDirectory (placeOf path) = true := by
  induction later generalizing c with
  | nil => exact there
  | cons e later ih =>
    have held' : path ∉ (c.step e).returned := fun there => held (returned_subset_run _ later there)
    have same := c.continues_step e
    have clear : ¬ c.manager.Sweeps (placeOf path) := by
      obtain ⟨n, -, named⟩ := h.numbered
      have until_now := (c.continues_run (e :: later)).now
      rw [named, placeOf_normal] at since ⊢
      exact Manager.not_sweeps_of_young slashless proper past (by omega) since
    have spared := spares_step sound h held' fun _ => clear
    refine ih (sound.step e) (h.step e) held (same.settings ▸ slashless) (same.settings ▸ proper)
      (Int.le_trans past same.now) ?_ (spared.since time past since) (spared.directory.trans there)
    rw [same.interval]
    exact young

end Run

/-- A directory that is held is there just as long as no sweep has found it, or a directory around it, as old as the
interval. All that happens in between is of no account: others are handed out and returned, time passes, files are
written. Where the prefix is the beginning of a name, a directory that was handed out less than an interval ago is
there. -/
theorem held_directory_kept_iff {m m' : Manager} (rooted : m.tree.IsRooted) (before later : List Event) {path : String}
    (acquired : ((start m).run before).manager.acquire = (.ok path, m'))
    (held : path ∉ ((start m).run (before ++ .acquire :: later)).returned) :
    (((start m).run (before ++ .acquire :: later)).manager.tree.isDirectory (placeOf path) = true ↔
      ∀ earlier, earlier ++ [.acquire] <+: later →
        ¬ ((start m).run (before ++ .acquire :: earlier)).manager.Sweeps (placeOf path)) ∧
    ('/' ∉ m.settings.namePrefix.toList → m.settings.namePrefix ≠ "*" →
      ((start m).run (before ++ .acquire :: later)).manager.now < m'.now + m'.interval →
        ((start m).run (before ++ .acquire :: later)).manager.tree.isDirectory (placeOf path) = true) := by
  have begun := (sound_start rooted).run before
  have sound := begun.step .acquire
  have whole (events : List Event) : (start m).run (before ++ .acquire :: events) =
      (((start m).run before).step .acquire).run events := by rw [run_append, run_cons]
  rw [whole later] at held
  simp only [whole]
  have same := (start m).continues_run before
  generalize (start m).run before = c at *
  have after : (c.step .acquire).manager = m' := by rw [step, Custody.acquire, acquired]
  obtain ⟨there, since, around⟩ := Manager.isDirectory_of_acquire begun.rooted acquired
  have next := c.continues_step .acquire
  have handed : (c.step .acquire).HandedOut path :=
    ⟨isNumbered_acquire (by rw [acquired]), Manager.isWithin_home_of_acquire begun.rooted acquired,
      by rwa [Manager.IsAroundRoot, next.root]⟩
  rw [← after] at there since
  refine ⟨(isDirectory_run sound handed later held).trans (and_iff_right there),
    fun slashless proper young => ?_⟩
  have settings := next.settings.trans same.settings
  rw [← after] at young
  exact isDirectory_run_of_young sound handed later held (settings ▸ slashless) (settings ▸ proper)
    (Int.le_refl _) young since there

def plainManager : Manager := .start {} "ws" 0

/-- A job that writes once and lasts almost as long as the interval. -/
def longJob : List Event :=
  [.write "ws/cexplorer-job1/example.cpp" [], .pass 599000000000, .acquire, .release "ws/cexplorer-job2"]

theorem held_directory_kept_iff_longJob :
    plainManager.acquire.1 = .ok "ws/cexplorer-job1" ∧
      ((start plainManager).run (.acquire :: longJob)).returned = ["ws/cexplorer-job2"] ∧
      ((start plainManager).run (.acquire :: longJob)).manager.tree.isDirectory
        (placeOf "ws/cexplorer-job1") = true := by
  have given : plainManager.acquire.1 = .ok "ws/cexplorer-job1" := by decide +kernel
  have returned : ((start plainManager).run (.acquire :: longJob)).returned = ["ws/cexplorer-job2"] := by
    decide +kernel
  refine ⟨given, returned, ?_⟩
  have acquired : ((start plainManager).run []).manager.acquire = (.ok "ws/cexplorer-job1", plainManager.acquire.2) :=
    Prod.ext given rfl
  obtain ⟨-, young⟩ := held_directory_kept_iff (isRooted_empty _) [] longJob acquired
    (by rw [List.nil_append, returned]; decide)
  rw [List.nil_append] at young
  exact young (by decide) (by decide) (by decide +kernel)

def longerJob : List Event :=
  [.acquire, .write "ws/cexplorer-job1/example.cpp" [], .pass 600000000000, .acquire]

/-- Such a job loses its directory to the sweep that the other acquisition makes. -/
theorem held_directory_swept :
    0 < plainManager.settings.cleanupSecs ∧
      ((start plainManager).run longerJob).given = ["ws/cexplorer-job2", "ws/cexplorer-job1"] ∧
      ((start plainManager).run longerJob).returned = [] ∧
      ((start plainManager).run longerJob).manager.tree.isDirectory (placeOf "ws/cexplorer-job1") = false := by
  decide +kernel

end Custody
end AsmScope
