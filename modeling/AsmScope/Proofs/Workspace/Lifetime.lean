import AsmScope.Proofs.Files.Changes
import AsmScope.Proofs.Job.Shape
import AsmScope.Proofs.Job.Timely
import AsmScope.Proofs.Service.Runs
import AsmScope.Proofs.Workspace.Manager
import AsmScope.Rehearsal.Basic

/-! How long the directory of a job lasts. The work inside a directory may do whatever it likes to the tree of files,
and every answer may be a failure or a cancellation. A directory that the job was given is released however the work
ends. A job that is cancelled while its directory is being made is not given it, and nobody else releases it. -/

namespace AsmScope
open FileTree Compile

/-- What a piece of work comes to for the directories, whatever its answer. -/
inductive Effect where
  | made (path : String)
  | removed
  | nothingRemoved
  | anything
  deriving DecidableEq

def Effect.made? : Effect → Option String
  | .made path => some path
  | _ => none

structure Deed where
  answered : Answered
  effect : Effect

def made (deeds : List Deed) : List String := deeds.filterMap fun d => d.effect.made?

/-- What becomes of the directories while a piece of work is answered. An acquisition and a release leave the tree to a
thread. It goes on although the job that waits for it is cancelled; if it has not begun by then, it never does. -/
inductive Happens : Manager → Deed → Manager → Prop where
  | acquired {m m' : Manager} {path : String} (given : m.acquire = (.ok path, m')) :
      Happens m ⟨⟨.acquire, .ok path⟩, .made path⟩ m'
  | orphaned {m m' : Manager} {path : String} (given : m.acquire = (.ok path, m')) :
      Happens m ⟨⟨.acquire, .error .cancelled⟩, .made path⟩ m'
  -- It is over before the sweep, or after it, or when the root is there.
  | refused {m m' : Manager} {e : Failure}
      (left : m'.tree = m.tree ∨ m'.tree = m.sweepIfDue.tree ∨ m'.tree = m.prepared) :
      Happens m ⟨⟨.acquire, .error e⟩, .anything⟩ m'
  | worked {m m' : Manager} {work : Work} {answer : Except Failure work.Answer} (inside : work.IsInside) :
      Happens m ⟨⟨work, answer⟩, .anything⟩ m'
  | workedWithin {m m' : Manager} {work : Work} {answer : Except Failure work.Answer} (inside : work.IsInside)
      (kept : ∀ path, m.tree.isDirectoryAt path = true → m'.tree.isDirectoryAt path = true) :
      Happens m ⟨⟨work, answer⟩, .nothingRemoved⟩ m'
  | released {m : Manager} {directory : String} {answer : Except Failure Unit} :
      Happens m ⟨⟨.release directory, answer⟩, .removed⟩ (m.release directory)
  | unreleased {m : Manager} {directory : String} {e : Failure} :
      Happens m ⟨⟨.release directory, .error e⟩, .nothingRemoved⟩ m
  | paused {m : Manager} {answer : Except Failure Unit} : Happens m ⟨⟨.pause, answer⟩, .nothingRemoved⟩ m

namespace Happens
variable {m m' : Manager} {d : Deed}

theorem of_made {path : String} (h : Happens m d m') (new : d.effect = .made path) :
    d.answered.work = .acquire ∧ m.acquire = (.ok path, m') := by
  cases h with
  | acquired given =>
    obtain rfl := Effect.made.inj new
    exact ⟨rfl, given⟩
  | orphaned given =>
    obtain rfl := Effect.made.inj new
    exact ⟨rfl, given⟩
  | _ => cases new

theorem of_pause (h : Happens m d m') (pause : d.answered.work = .pause) : m' = m := by
  cases h with
  | worked inside => exact (pause ▸ inside : Work.pause.IsInside).elim
  | workedWithin inside => exact (pause ▸ inside : Work.pause.IsInside).elim
  | paused => rfl
  | _ => cases pause

theorem isDirectoryAt {path : String} (h : Happens m d m') (inside : d.answered.work.IsInside)
    (tame : d.effect ≠ .anything) (there : m.tree.isDirectoryAt path = true) :
    m'.tree.isDirectoryAt path = true := by
  cases h with
  | worked => exact absurd rfl tame
  | workedWithin _ kept => exact kept path there
  | _ => exact inside.elim

end Happens

inductive Happened : Manager → List Deed → Manager → Prop where
  | nil (m : Manager) : Happened m [] m
  | cons {m m₁ m' : Manager} {d : Deed} {deeds : List Deed} (first : Happens m d m₁) (rest : Happened m₁ deeds m') :
      Happened m (d :: deeds) m'

/-- The job is cancelled while its directory is being made, or its release fails without being carried out. -/
inductive Leaves (path : String) : List Deed → Prop where
  | orphaned : Leaves path [⟨⟨.acquire, .error .cancelled⟩, .made path⟩]
  | unreleased (within : List Deed) (e : Failure) :
      Leaves path (⟨⟨.acquire, .ok path⟩, .made path⟩ ::
        (within ++ [⟨⟨.release path, .error e⟩, .nothingRemoved⟩]))

theorem isDirectoryAt_of_acquire {m m' : Manager} {path : String} (h : m.acquire = (.ok path, m')) :
    m'.tree.isDirectoryAt path = true := by
  obtain ⟨t, k, tree, -, -, named, new, rfl⟩ := Manager.acquire_ok_eq h
  rw [named]
  exact isDirectoryAt_of_makeDirectory new

namespace Happened
variable {m m' : Manager} {deeds : List Deed}

theorem split {before after : List Deed} (h : Happened m (before ++ after) m') :
    ∃ m₁, Happened m before m₁ ∧ Happened m₁ after m' := by
  induction before generalizing m with
  | nil => exact ⟨m, .nil m, h⟩
  | cons d before ih =>
    obtain _ | ⟨first, rest⟩ := h
    obtain ⟨m₁, begun, ended⟩ := ih rest
    exact ⟨m₁, .cons first begun, ended⟩

theorem of_pauses (h : Happened m deeds m') (pauses : ∀ d ∈ deeds, d.answered.work = .pause) : m' = m := by
  induction h with
  | nil => rfl
  | cons first rest ih =>
    rw [ih fun d hd => pauses d (List.mem_cons_of_mem _ hd), first.of_pause (pauses _ (List.mem_cons_self ..))]

theorem made_eq_nil (h : Happened m deeds m') (others : ∀ d ∈ deeds, d.answered.work ≠ .acquire) : made deeds = [] := by
  induction h with
  | nil => rfl
  | @cons m m₁ m' d deeds first rest ih =>
    rw [List.forall_mem_cons] at others
    rw [made, List.filterMap_cons]
    cases effect : d.effect with
    | made path => exact absurd (first.of_made effect).1 others.1
    | _ => exact ih others.2

theorem isDirectoryAt {path : String} (h : Happened m deeds m') (inside : ∀ d ∈ deeds, d.answered.work.IsInside)
    (tame : ∀ d ∈ deeds, d.effect ≠ .anything) (there : m.tree.isDirectoryAt path = true) :
    m'.tree.isDirectoryAt path = true := by
  induction h with
  | nil => exact there
  | cons first rest ih =>
    rw [List.forall_mem_cons] at inside tame
    exact ih inside.2 tame.2 (first.isDirectoryAt inside.1 tame.1 there)

end Happened

theorem Manager.mem_places_of_refused {m m' : Manager}
    (left : m'.tree = m.tree ∨ m'.tree = m.sweepIfDue.tree ∨ m'.tree = m.prepared) {place : Location}
    (there : place ∈ m'.tree.places) : place ∈ m.tree.places ∨ m.IsAroundRoot place := by
  rcases left with left | left | left
  · exact .inl (left ▸ there)
  · exact .inl (m.places_sweepIfDue_subset (left ▸ there))
  · exact mem_places_prepared (left ▸ there)

theorem isDirectoryAt_release {m m₁ : Manager} (m₂ : Manager) {path : String} (rooted : m.tree.IsRooted)
    (given : m.acquire = (.ok path, m₁)) : (m₂.release path).tree.isDirectoryAt path = false :=
  isDirectoryAt_remove _ (Manager.isWithin_home_of_acquire rooted given)

theorem Leaves.getLast? {path : String} {deeds : List Deed} (h : Leaves path deeds) :
    ∃ d, deeds.getLast? = some d ∧ d.answered.work ≠ .pause ∧ d.effect ≠ .removed := by
  cases h with
  | orphaned => exact ⟨_, rfl, by simp, by simp⟩
  | unreleased within e => exact ⟨_, by rw [← List.cons_append, List.getLast?_concat], by simp, by simp⟩

theorem not_leaves_of_removed {path : String} {a : Answered} (before : List Deed) {after : List Deed}
    (last : ∀ d ∈ after, d.answered.work = .pause) : ¬ Leaves path (before ++ ⟨a, .removed⟩ :: after) := by
  intro leaves
  obtain ⟨d, ends, other, open'⟩ := leaves.getLast?
  rcases List.eq_nil_or_concat after with rfl | ⟨pauses, final, rfl⟩
  · rw [List.getLast?_concat] at ends
    obtain rfl := Option.some.inj ends
    exact open' rfl
  · rw [List.concat_eq_append, ← List.cons_append, ← List.append_assoc, List.getLast?_concat] at ends
    obtain rfl := Option.some.inj ends
    exact other (last _ (by simp))

theorem deeds_of_course {deeds : List Deed} {outcome : Except Failure Result}
    (course : Course (deeds.map Deed.answered) outcome) :
    (deeds = [] ∧ ∃ e, outcome = .error e) ∨
      (∃ e effect, deeds = [⟨⟨.acquire, .error e⟩, effect⟩] ∧ outcome = .error e) ∨
      ∃ (path : String) (given : Effect) (within : List Deed) (released : Except Failure Unit) (effect : Effect)
          (after : List Deed),
        deeds = ⟨⟨.acquire, .ok path⟩, given⟩ :: (within ++ ⟨⟨.release path, released⟩, effect⟩ :: after) ∧
        (∀ d ∈ within, d.answered.work.IsInside) ∧ (∀ d ∈ after, d.answered.work = .pause) ∧
        ∀ e, released = .error e → after = [] ∧ outcome = .error e := by
  generalize answers : deeds.map Deed.answered = trace at course
  cases course with
  | idle e => exact .inl ⟨List.map_eq_nil_iff.mp answers, e, rfl⟩
  | outside e =>
    obtain ⟨⟨_, effect⟩, rest, rfl, rfl, none⟩ := List.map_eq_cons_iff.mp answers
    obtain rfl := List.map_eq_nil_iff.mp none
    exact .inr (.inl ⟨e, effect, rfl, rfl⟩)
  | inside inner last stopped =>
    obtain ⟨⟨_, given⟩, rest, rfl, rfl, parts⟩ := List.map_eq_cons_iff.mp answers
    obtain ⟨within, rest, rfl, rfl, ends⟩ := List.map_eq_append_iff.mp parts
    obtain ⟨⟨_, effect⟩, after, rfl, rfl, rfl⟩ := List.map_eq_cons_iff.mp ends
    rw [List.forall_mem_map] at inner last
    exact .inr (.inr ⟨_, given, within, _, effect, after, rfl, inner, last, fun e failed =>
      (stopped e failed).imp_left List.map_eq_nil_iff.mp⟩)

/-- A job with a directory has made that one only. The release has taken it away, or it failed and did nothing, so that
the directory is there if no work inside has taken it away. -/
theorem removed_or_left {m m' : Manager} {path : String} {given effect : Effect} {within after : List Deed}
    {released : Except Failure Unit} (rooted : m.tree.IsRooted) (inside : ∀ d ∈ within, d.answered.work.IsInside)
    (last : ∀ d ∈ after, d.answered.work = .pause)
    (happened : Happened m
      (⟨⟨.acquire, .ok path⟩, given⟩ :: (within ++ ⟨⟨.release path, released⟩, effect⟩ :: after)) m') :
    given = .made path ∧ made (within ++ ⟨⟨.release path, released⟩, effect⟩ :: after) = [] ∧
      m.acquire = (.ok path, m.acquire.2) ∧
      (effect = .removed ∧ m'.tree.isDirectoryAt path = false ∨
        effect = .nothingRemoved ∧ (∃ e, released = .error e) ∧
          ((∀ d ∈ within, d.effect ≠ .anything) → m'.tree.isDirectoryAt path = true)) := by
  obtain _ | ⟨first, rest⟩ := happened
  cases first with
  | worked inside => cases inside
  | workedWithin inside => cases inside
  | acquired acquired =>
    have others : ∀ d ∈ within ++ ⟨⟨.release path, released⟩, effect⟩ :: after, d.answered.work ≠ .acquire := by
      intro d hd acquire
      rcases List.mem_append.mp hd with hd | hd
      · exact (acquire ▸ inside d hd : Work.acquire.IsInside).elim
      rcases List.mem_cons.mp hd with rfl | hd
      · cases acquire
      · cases acquire.symm.trans (last d hd)
    refine ⟨rfl, rest.made_eq_nil others, by rw [acquired], ?_⟩
    obtain ⟨m₂, work, rest⟩ := rest.split
    obtain _ | ⟨release, rest⟩ := rest
    obtain rfl := rest.of_pauses last
    cases release with
    | worked inside => cases inside
    | workedWithin inside => cases inside
    | released => exact .inl ⟨rfl, isDirectoryAt_release m₂ rooted acquired⟩
    | unreleased =>
      exact .inr ⟨rfl, ⟨_, rfl⟩, fun tame => work.isDirectoryAt inside tame (isDirectoryAt_of_acquire acquired)⟩

/-- The directory that a job makes is gone at its end, but in two cases: the job is cancelled while the directory is
being made, or its release fails without being carried out. In these it is there, if no work inside has taken it away.
Nothing else is made for the job but the root and what is missing around the root. With a result nothing is left, and
it names no directory. -/
theorem directory_outlives_interrupted_job (w : Workshop) (r : Request) {m m' : Manager} {deeds : List Deed}
    {outcome : Except Failure Result} (rooted : m.tree.IsRooted)
    (ran : (job w r).Runs (deeds.map Deed.answered) outcome) (happened : Happened m deeds m') :
    (∀ path ∈ made deeds,
      (∀ place ∈ m.acquire.2.tree.places, place ∈ m.tree.places ∨ m.IsAroundRoot place ∨ place = placeOf path) ∧
      (m'.tree.isDirectoryAt path = true → Leaves path deeds) ∧
      (Leaves path deeds → (∀ d ∈ deeds, d.effect ≠ .anything) → m'.tree.isDirectoryAt path = true)) ∧
    (made deeds = [] → ∀ place ∈ m'.tree.places, place ∈ m.tree.places ∨ m.IsAroundRoot place) ∧
    ∀ result, outcome = .ok result →
      result.workspace = none ∧ ∀ path ∈ made deeds, m'.tree.isDirectoryAt path = false := by
  have named : ∀ result, outcome = .ok result → result.workspace = none := by
    rintro result rfl
    exact (job_result ran).2.2
  obtain ⟨rfl, -⟩ | ⟨e, effect, rfl, rfl⟩ | ⟨path, given, within, released, effect, after, rfl, inside, last, stopped⟩ :=
    deeds_of_course (course_of_job ran)
  · cases happened
    exact ⟨fun path new => (nomatch new), fun _ place there => .inl there, fun result ended =>
      ⟨named result ended, fun path new => (nomatch new)⟩⟩
  · obtain _ | ⟨first, rest⟩ := happened
    cases rest
    cases first with
    | worked inside => cases inside
    | workedWithin inside => cases inside
    | refused left =>
      exact ⟨fun path new => (nomatch new), fun _ place there => Manager.mem_places_of_refused left there,
        fun result ended => nomatch ended⟩
    | orphaned acquired =>
      refine ⟨fun path new => ?_, fun none => (nomatch none), fun result ended => nomatch ended⟩
      obtain rfl := List.mem_singleton.mp new
      refine ⟨fun place there => ?_, fun _ => .orphaned, fun _ _ => isDirectoryAt_of_acquire acquired⟩
      rw [acquired] at there
      exact Manager.mem_places_acquire acquired there
  · obtain ⟨rfl, others, acquired, ends⟩ := removed_or_left rooted inside last happened
    have only : made (⟨⟨.acquire, .ok path⟩, .made path⟩ :: (within ++ ⟨⟨.release path, released⟩, effect⟩ :: after)) =
        [path] := congrArg (path :: ·) others
    rw [only]
    simp only [List.mem_singleton, forall_eq, List.cons_ne_nil, false_implies, true_and]
    obtain ⟨rfl, gone⟩ | ⟨rfl, ⟨e, rfl⟩, there⟩ := ends
    · refine ⟨⟨fun place => Manager.mem_places_acquire acquired, fun there => ?_, fun leaves => ?_⟩,
        fun result ended => ⟨named result ended, gone⟩⟩
      · exact absurd (gone.symm.trans there) Bool.false_ne_true
      · exact absurd leaves (not_leaves_of_removed (⟨⟨.acquire, .ok path⟩, .made path⟩ :: within) last)
    · obtain ⟨rfl, rfl⟩ := stopped e rfl
      refine ⟨⟨fun place => Manager.mem_places_acquire acquired, fun _ => .unreleased within e, fun _ tame => ?_⟩,
        fun result ended => nomatch ended⟩
      exact there fun d hd => tame d (List.mem_cons_of_mem _ (List.mem_append_left _ hd))

namespace Machine

@[simp] theorem passMillis_zero (m : Machine) : m.passMillis 0 = m := by
  simp [passMillis, Manager.pass]

/-- A described machine does at once what it is asked for. -/
def effectOf (m : Machine) : Work → Effect
  | .acquire =>
    match m.acquire.1 with
    | .ok path => .made path
    | .error _ => .anything
  | .release _ => .removed
  | .pause => .nothingRemoved
  | _ => .anything

theorem perform_happens (m : Machine) (work : Work) :
    Happens m.manager ⟨⟨work, (m.perform work).1⟩, m.effectOf work⟩
      ((m.perform work).2.2.passMillis (m.perform work).2.1).manager := by
  cases work with
  | acquire =>
    simp only [perform, passMillis_zero, acquire, effectOf]
    split
    · rename_i given
      exact .acquired given
    · rename_i failed
      exact .refused (.inr (.inr (Manager.acquire_error failed)))
  | release directory =>
    simp only [perform, passMillis_zero]
    exact .released
  | pause =>
    simp only [perform, passMillis_zero]
    exact .paused
  | _ => exact .worked trivial

def deedsOf {α : Type} (m : Machine) : Plan α → List Deed
  | .ended _ => []
  | .await work next =>
    let (answer, ms, after) := m.perform work
    ⟨⟨work, answer⟩, m.effectOf work⟩ :: deedsOf (after.passMillis ms) (next answer)

theorem runPlan_happened {α : Type} (m : Machine) (p : Plan α) :
    p.Runs ((m.deedsOf p).map Deed.answered) (m.runPlan p).1 ∧
      Happened m.manager (m.deedsOf p) (m.runPlan p).2.manager := by
  induction p generalizing m with
  | ended outcome => exact ⟨.ended outcome, .nil _⟩
  | await work next ih =>
    obtain ⟨ran, happened⟩ := ih (m.perform work).1 ((m.perform work).2.2.passMillis (m.perform work).2.1)
    exact ⟨.await ran, .cons (m.perform_happens work) happened⟩

end Machine

def failingCompiler : Rule where
  program := some "/bin/cc"
  shell := none
  arg := none
  source := none
  refusal := none
  output := none
  stdout := []
  stderr := []
  code := 1
  lifetime := some 0
  killFails := false
  streams := true

def plainMachine : Machine := .start {} "example.cpp" "output.s" [failingCompiler]

def plainJob : Plan Result := job Service.smallWorkshop Service.plainRequest

def orphaning : List Deed := [⟨⟨.acquire, .error .cancelled⟩, .made "ws/cexplorer-job1"⟩]

theorem directory_outlives_interrupted_job_plain :
    plainMachine.manager.tree.IsRooted ∧ made (plainMachine.deedsOf plainJob) = ["ws/cexplorer-job1"] ∧
    (∃ result, (plainMachine.runPlan plainJob).1 = .ok result ∧ result.workspace = none ∧
      (plainMachine.runPlan plainJob).2.tree.isDirectoryAt "ws/cexplorer-job1" = false) ∧
    plainJob.Runs (orphaning.map Deed.answered) (.error .cancelled) ∧
    Happened plainMachine.manager orphaning plainMachine.manager.acquire.2 ∧
    plainMachine.manager.acquire.2.tree.isDirectoryAt "ws/cexplorer-job1" = true := by
  have rooted : plainMachine.manager.tree.IsRooted := isRooted_empty _
  have made : made (plainMachine.deedsOf plainJob) = ["ws/cexplorer-job1"] := by decide +kernel
  obtain ⟨ran, happened⟩ := plainMachine.runPlan_happened plainJob
  obtain ⟨-, -, named⟩ := directory_outlives_interrupted_job _ _ rooted ran happened
  have returns : (plainMachine.runPlan plainJob).1.toOption.isSome = true := by decide +kernel
  have given : plainMachine.manager.acquire = (.ok "ws/cexplorer-job1", plainMachine.manager.acquire.2) :=
    Prod.ext (by decide +kernel) rfl
  have orphaned : Happened plainMachine.manager orphaning plainMachine.manager.acquire.2 :=
    .cons (.orphaned given) (.nil _)
  have cancelled : plainJob.Runs (orphaning.map Deed.answered) (.error .cancelled) :=
    plainJob.runs_follow fun _ => .error .cancelled
  obtain ⟨left, -, -⟩ := directory_outlives_interrupted_job _ _ rooted cancelled orphaned
  obtain ⟨-, -, there⟩ := left _ (List.mem_singleton_self _)
  refine ⟨rooted, made, ?_, cancelled, orphaned, there .orphaned (by simp [orphaning])⟩
  cases ended : (plainMachine.runPlan plainJob).1 with
  | error e =>
    rw [ended] at returns
    cases returns
  | ok result =>
    obtain ⟨nameless, gone⟩ := named result ended
    exact ⟨result, rfl, nameless, gone _ (made ▸ List.mem_singleton_self _)⟩

/-- A call that is cancelled while its directory is being made is over, and the directory stays. -/
theorem directory_left_by_cancelled_call :
    let begun := (Rehearsal.start Service.smallWorkshop [failingCompiler]).submit Service.plainRequest
    let ended := (begun.2.cancel begun.1).settle [begun.1]
    ended.1 = [.error .cancelled] ∧ ended.2.agenda.isEmpty = true ∧
      ended.2.machine.leftover = ["cexplorer-job1"] := by
  decide +kernel

end AsmScope
