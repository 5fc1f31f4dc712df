import AsmScope.Proofs.Job.Runs
import AsmScope.Proofs.Service.Admissible

/-! How a plan ends. It waits so many times at most, and as long as the answers fail in some ways only, its outcome is
of a kind that can be told. A job waits seven times at most, and what it fails with is never that the request is
malformed or that its compiler is unknown, unless an answer says so. -/

namespace AsmScope

def Failure.hasStatus : Failure → Bool
  | .malformed _ | .unknownCompiler _ => true
  | _ => false

def FailsOnly {α : Type} (kind : Failure → Prop) (outcome : Except Failure α) : Prop :=
  ∀ e, outcome = .error e → kind e

section FailsOnly
variable {α : Type} {kind : Failure → Prop}

theorem failsOnly_ok (a : α) : FailsOnly kind (.ok a : Except Failure α) := fun _ same => nomatch same

theorem failsOnly_error_iff {e : Failure} : FailsOnly kind (.error e : Except Failure α) ↔ kind e :=
  ⟨fun only => only e rfl, fun h _ same => Except.error.inj same ▸ h⟩

end FailsOnly

namespace Plan
variable {α β : Type}

/-- The plan comes to an outcome of some kind after so many waits at most, if the answers fail in some ways only. -/
inductive Ends (kind : Failure → Prop) (last : Except Failure α → Prop) : Nat → Plan α → Prop where
  | ended {n : Nat} {outcome : Except Failure α} (h : last outcome) : Ends kind last n (.ended outcome)
  | await {n : Nat} {work : Work} {next : Except Failure work.Answer → Plan α}
      (rest : ∀ answer, FailsOnly kind answer → Ends kind last n (next answer)) :
      Ends kind last (n + 1) (.await work next)

section Ends
variable {kind : Failure → Prop} {last : Except Failure α → Prop} {last' : Except Failure β → Prop} {m n : Nat}
  {p : Plan α}

theorem Ends.mono (h : p.Ends kind last m) (more : m ≤ n) : p.Ends kind last n := by
  induction h generalizing n with
  | ended h => exact .ended h
  | await rest ih =>
    obtain ⟨n, rfl⟩ := Nat.exists_eq_add_one_of_ne_zero (Nat.ne_of_gt (Nat.lt_of_lt_of_le (Nat.succ_pos _) more))
    exact .await fun answer only => ih answer only (Nat.le_of_succ_le_succ more)

theorem Ends.bind {f : α → Plan β} (first : p.Ends kind last m) (failed : ∀ e, last (.error e) → last' (.error e))
    (second : ∀ a, last (.ok a) → (f a).Ends kind last' n) : (p >>= f).Ends kind last' (n + m) := by
  change (Plan.bind p f).Ends kind last' (n + m)
  induction first with
  | @ended m outcome h =>
    cases outcome with
    | error e => exact .ended (failed e h)
    | ok a => exact (second a h).mono (Nat.le_add_right n m)
  | await rest ih => exact .await ih

theorem Ends.next {f : α → Plan β} (first : p.Ends kind (FailsOnly kind) m)
    (second : ∀ a, (f a).Ends kind (FailsOnly kind) n) : (p >>= f).Ends kind (FailsOnly kind) (n + m) :=
  first.bind (fun _ failed => failsOnly_error_iff.mpr (failsOnly_error_iff.mp failed)) fun a _ => second a

theorem ends_perform (work : Work) : (perform work).Ends kind (FailsOnly kind) 1 :=
  .await fun _ only => .ended only

theorem ofExcept_ok_bind (a : α) (f : α → Plan β) : (ofExcept (.ok a) >>= f) = f a := rfl

theorem Ends.attempt (h : p.Ends kind last n) :
    (attempt p).Ends kind (fun outcome => ∃ inner, outcome = .ok inner ∧ last inner) n := by
  induction h with
  | ended h => exact .ended ⟨_, rfl, h⟩
  | await rest ih => exact .await ih

theorem ends_inDirectory {body : String → Plan α}
    (within : ∀ directory, (body directory).Ends kind (FailsOnly kind) n) :
    (inDirectory body).Ends kind (FailsOnly kind) (1 + n + 1) := by
  refine (ends_perform .acquire).next fun directory => ?_
  refine (within directory).attempt.bind (fun e h => nomatch h.choose_spec.1) fun outcome ended => ?_
  obtain ⟨inner, same, only⟩ := ended
  obtain rfl := Except.ok.inj same
  exact (ends_perform (.release directory)).next (n := 0) fun _ => .ended only

theorem Ends.of_runs {trace : List Answered} {outcome : Except Failure α} (h : p.Ends kind last n)
    (ran : p.Runs trace outcome) (answers : ∀ a ∈ trace, FailsOnly kind a.answer) :
    trace.length ≤ n ∧ last outcome := by
  induction ran generalizing n with
  | ended outcome =>
    obtain ⟨h⟩ := h
    exact ⟨Nat.zero_le _, h⟩
  | await ran ih =>
    obtain _ | rest := h
    rw [List.forall_mem_cons] at answers
    obtain ⟨short, ended⟩ := ih (rest _ answers.1) answers.2
    exact ⟨Nat.succ_le_succ short, ended⟩

end Ends
end Plan

def Failure.Told (e : Failure) : Prop := e.hasStatus = false

theorem Workshop.told_of_validate {w : Workshop} {r : Request} {e : Failure} (bad : w.validate r = .error e) :
    e.Told := by
  unfold validate at bad
  split at bad
  · split at bad
    · rename_i problem
      obtain rfl := Except.error.inj bad
      unfold Source.check at problem
      split at problem
      · cases problem
      · obtain rfl := Option.some.inj problem
        rfl
    · cases bad
  · obtain rfl := Except.error.inj bad
    rfl

namespace Compile
open Plan

theorem ends_legible {α : Type} (outcome : Except Text.LongNumeral α) (n : Nat) :
    (ofExcept (outcome.mapError .longNumeral)).Ends Failure.Told (FailsOnly Failure.Told) n := by
  cases outcome with
  | error e => exact .ended (failsOnly_error_iff.mpr rfl)
  | ok a => exact .ended (failsOnly_ok a)

theorem ends_runTool (result : Result) (l : Launch) :
    (runTool result l).Ends Failure.Told (FailsOnly Failure.Told) 1 := by
  refine (ends_perform (.launch l)).attempt.bind (n := 0) (fun e h => nomatch h.choose_spec.1) fun outcome ended => ?_
  obtain ⟨inner, same, only⟩ := ended
  obtain rfl := Except.ok.inj same
  split
  · exact .ended (failsOnly_ok _)
  · exact .ended (failsOnly_ok _)
  · exact .ended (failsOnly_error_iff.mpr (only _ rfl))

theorem ends_retrieve (w : Workshop) (c : CompilerSettings) (r : Request) (directory output : String) (result : Result)
    (stdout : String) :
    (retrieve w c r directory output result stdout).Ends Failure.Told (FailsOnly Failure.Told) 2 := by
  unfold retrieve
  split
  · exact .ended (failsOnly_ok _)
  split
  · exact (ends_runTool _ _).mono (by decide)
  refine (ends_perform (.measure output)).next (n := 1) fun size => ?_
  split
  · exact .ended (failsOnly_ok _)
  split
  · exact .ended (failsOnly_ok _)
  split
  · exact (ends_perform (.read output)).next (n := 0) fun _ => .ended (failsOnly_ok _)
  · exact ends_runTool _ _

theorem ends_runIn (w : Workshop) (c : CompilerSettings) (b : Builder) (r : Request) (source directory : String) :
    (runIn w c b r source directory).Ends Failure.Told (FailsOnly Failure.Told) 4 := by
  refine (ends_perform _).next (n := 3) fun _ => (ends_perform _).next (n := 2) fun o => ?_
  split
  · exact (ends_legible _ 0).next fun _ => ends_retrieve ..
  · exact (ends_legible _ 0).next (n := 2) fun _ => .ended (failsOnly_ok _)

theorem ends_finish (w : Workshop) (r : Request) (got : Retrieved) :
    (finish w r got).Ends Failure.Told (FailsOnly Failure.Told) 1 := by
  unfold finish
  simp only
  split
  · exact .ended (failsOnly_ok _)
  split
  · exact .ended (failsOnly_ok _)
  · exact (ends_perform .pause).next (n := 0) fun _ => (ends_legible _ 0).next fun _ => .ended (failsOnly_ok _)

/-- The number of times that a job waits at most. -/
def maxWaits : Nat := 7

theorem ends_job {w : Workshop} {r : Request} (here : w.IsLocal r.compiler) :
    (job w r).Ends Failure.Told (FailsOnly Failure.Told) maxWaits := by
  obtain ⟨entry, found, -⟩ := here
  have known : w.registry.lookup r.compiler = .ok entry := by rw [Registry.lookup, found]
  rw [job, known, ofExcept_ok_bind, Workshop.normalize_of_find? found]
  cases entry.builder with
  | none => exact .ended (failsOnly_error_iff.mpr rfl)
  | some b =>
    dsimp only
    rw [ofExcept_ok_bind]
    cases valid : w.validate (Workshop.normalFor entry r) with
    | error e => exact .ended (failsOnly_error_iff.mpr (Workshop.told_of_validate valid))
    | ok =>
      have work := (ends_inDirectory fun directory =>
        ends_runIn w entry.settings b (Workshop.normalFor entry r) (sourceFor w (Workshop.normalFor entry r)) directory)
      exact work.next (n := 1) fun got => ends_finish w (Workshop.normalFor entry r) got

end Compile
end AsmScope
