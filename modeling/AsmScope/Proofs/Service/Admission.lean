import AsmScope.Proofs.Service.Permits

/-! How many jobs are in progress. The store has no part in it, so the statement is about a service whose store is
open to others: it may hold anything at the start, and it may be changed in any way between two events. -/

namespace AsmScope.Service

def IsNew (s : Service) (e : ServiceEvent) : Prop := ∀ id, submitted? e = some id → ∀ c ∈ s.calls, c.id ≠ id

inductive Reached (w : Workshop) : Service → Prop where
  | start (store : Store) : Reached w { start w with store := store }
  | step {s : Service} {e : ServiceEvent} (before : Reached w s) (new : s.IsNew e) : Reached w (s.step e)
  | store {s : Service} (before : Reached w s) (store : Store) : Reached w { s with store := store }

theorem reached_after (w : Workshop) (events : List ServiceEvent) (distinct : Distinct events) :
    Reached w (after w events) := by
  refine run_induction (P := fun events => Reached w (after w events)) (.start _) ?_ events distinct
  intro events e distinct ih
  rw [after_concat]
  refine .step ih fun id given c hc => ?_
  cases e with
  | submit number r =>
    obtain rfl := Option.some.inj given
    exact ne_of_submitted distinct hc
  | _ => cases given

/-- Every entry of the table is for a call that leads the job of its key. -/
def Listed (s : Service) : Prop :=
  ∀ entry ∈ s.inFlight, ∃ c ∈ s.calls, c.id = entry.2 ∧ ∃ r, led? c.stage = some (entry.1, r)

namespace Listed

theorem addCall {s t : Service} (h : Listed s) {c : Call} (calls : t.calls = s.calls ++ [c])
    (inFlight : t.inFlight = s.inFlight) : Listed t := by
  intro entry he
  obtain ⟨d, hd, led⟩ := h entry (inFlight ▸ he)
  exact ⟨d, calls ▸ List.mem_append_left _ hd, led⟩

theorem lead {s t : Service} (h : Listed s) {c : Call} {key : String} {r : Request}
    (leading : led? c.stage = some (key, r)) (calls : t.calls = s.calls ++ [c])
    (inFlight : t.inFlight = s.inFlight ++ [(key, c.id)]) : Listed t := by
  intro entry he
  rw [inFlight, List.mem_append, List.mem_singleton] at he
  rcases he with he | rfl
  · obtain ⟨d, hd, led⟩ := h entry he
    exact ⟨d, calls ▸ List.mem_append_left _ hd, led⟩
  · exact ⟨c, calls ▸ List.mem_append_right _ List.mem_cons_self, rfl, r, leading⟩

theorem map {s t : Service} (h : Listed s) (f : Call → Call) (ids : ∀ c, (f c).id = c.id)
    (leading : ∀ c ∈ s.calls, led? (f c).stage = led? c.stage) (calls : t.calls = s.calls.map f)
    (inFlight : t.inFlight = s.inFlight) : Listed t := by
  intro entry he
  obtain ⟨d, hd, hid, r, led⟩ := h entry (inFlight ▸ he)
  exact ⟨f d, calls ▸ List.mem_map_of_mem hd, (ids d).trans hid, r, (leading d hd).trans led⟩

theorem endLeader {s t : Service} (h : Listed s) (ids : (s.calls.map Call.id).Nodup) {c : Call} {key : String}
    {r : Request} (outcome : Outcome) (member : c ∈ s.calls) (leading : led? c.stage = some (key, r))
    (calls : t.calls = s.calls.map (settled c.id outcome))
    (inFlight : t.inFlight = s.inFlight.filter fun entry => entry.1 ≠ key) : Listed t := by
  intro entry he
  rw [inFlight, List.mem_filter, decide_eq_true_eq] at he
  obtain ⟨he, other⟩ := he
  obtain ⟨d, hd, hid, r', led⟩ := h entry he
  have apart : d.id ≠ c.id := by
    intro same
    obtain rfl := List.inj_on_of_nodup_map ids hd member same
    rw [leading, Option.some.injEq, Prod.mk.injEq] at led
    exact other led.1.symm
  exact ⟨settled c.id outcome d, calls ▸ List.mem_map_of_mem hd, (settled_id ..).trans hid, r',
    led?_settled.mpr ⟨apart, led⟩⟩

theorem step {s : Service} (h : Listed s) (ids : (s.calls.map Call.id).Nodup) (e : ServiceEvent) :
    Listed (s.step e) := by
  have move := step_moves s e
  generalize s.step e = t at move
  cases move with
  | refused | found | joined | invalid => exact h.addCall rfl rfl
  | queued | led => exact h.lead rfl rfl rfl
  | idle => exact h
  | withdrawn call stage | returned call stage =>
    obtain rfl := call?_id call
    exact h.endLeader ids (.error .cancelled) (mem_of_call? call) (by rw [stage]; rfl) (by simp) (by simp)
  | @finished id c key r outcome call stage =>
    obtain rfl := call?_id call
    exact h.endLeader ids outcome (mem_of_call? call) (by rw [stage]; rfl) (by simp) (by simp)
  | @begun id c key r t call stage =>
    have leading := led?_staged ids (.running key r) call (by rw [stage]; rfl)
    exact h.map _ (staged_id _ _) leading (by simp) (by simp [setStage])
  | left call stage | told call stage =>
    exact h.map (staged _ _) (staged_id _ _) (led?_staged ids _ call (by rw [stage]; rfl)) rfl rfl
  | cancelled => exact h.map (flagged _) (flagged_id _) (fun c _ => by rw [flagged_stage]) rfl rfl

end Listed

namespace Reached

theorem ids_nodup {w : Workshop} {s : Service} (h : Reached w s) : (s.calls.map Call.id).Nodup := by
  induction h with
  | start store => exact List.nodup_nil
  | @step s e before new ih =>
    rw [step_ids, List.nodup_append]
    refine ⟨ih, ?_, ?_⟩
    · cases submitted? e <;> simp
    · rintro number hnumber other hother rfl
      obtain ⟨c, hc, rfl⟩ := List.mem_map.mp hnumber
      exact new c.id (Option.mem_toList.mp hother) c hc rfl
  | store before store ih => exact ih

theorem balanced {w : Workshop} {s : Service} (h : Reached w s) : Balanced w.config.limits.jobs s := by
  induction h with
  | start store => exact (Balanced.start w).of_eq rfl rfl rfl
  | step before new ih => exact ih.step before.ids_nodup _ new
  | store before store ih => exact ih.of_eq rfl rfl rfl

theorem listed {w : Workshop} {s : Service} (h : Reached w s) : Listed s := by
  induction h with
  | start store => exact fun _ he => nomatch he
  | step before new ih => exact ih.step before.ids_nodup _
  | store before store ih => exact ih

end Reached

theorem not_led_of_ended {stage : Stage} (ended : isEnded stage = true) :
    led? stage = none ∧ isQueued stage = false ∧ isRunning stage = false := by
  cases stage with
  | ended outcome => exact ⟨rfl, rfl, rfl⟩
  | _ => cases ended

theorem Reached.inFlight_of_ended {w : Workshop} {s : Service} (reached : Reached w s)
    (ended : ∀ c ∈ s.calls, isEnded c.stage = true) : s.inFlight = [] := by
  refine List.eq_nil_iff_forall_not_mem.mpr fun entry he => ?_
  obtain ⟨c, hc, -, r, led⟩ := reached.listed entry he
  rw [(not_led_of_ended (ended c hc)).1] at led
  cases led

/-- Admission. In every state of a service, whatever its store holds and whoever else uses it, the permits that are
free, those that calls in the queue have been handed and those of jobs in progress make up the limit on jobs, so no
more jobs than that are in progress. Once every call has ended, no job is in the table and every permit is free. -/
theorem admission (w : Workshop) (s : Service) (reached : Reached w s) :
    s.running.length ≤ w.config.limits.jobs ∧
    s.free + s.handed.length + s.running.length = w.config.limits.jobs ∧
    ((∀ c ∈ s.calls, isEnded c.stage = true) → s.inFlight = [] ∧ s.free = w.config.limits.jobs) := by
  have balance : s.free + s.handed.length + s.running.length = w.config.limits.jobs := by
    rw [reached.balanced.handed_length reached.ids_nodup]
    exact reached.balanced.permits
  refine ⟨by omega, balance, fun ended => ?_⟩
  have noneRuns : s.running = [] :=
    List.filter_eq_nil_iff.mpr fun c hc => by simp [(not_led_of_ended (ended c hc)).2.2]
  have noneWaits : s.queued = [] :=
    List.filter_eq_nil_iff.mpr fun c hc => by simp [(not_led_of_ended (ended c hc)).2.1]
  constructor
  · exact reached.inFlight_of_ended ended
  · rw [handed, noneWaits, noneRuns] at balance
    exact balance

def optionRequest (option : String) : Request := { plainRequest with options := [option] }

/-- Two jobs run and a call waits; then a job ends, and its permit is handed to the call. -/
def busy : List ServiceEvent :=
  [.submit 0 (optionRequest "-O0"), .submit 1 (optionRequest "-O1"), .submit 2 (optionRequest "-O2"),
    .finish 0 (.error (.fault "stopped"))]

def busyToTheEnd : List ServiceEvent := busy ++ [.cancel 2, .resume 2, .finish 1 (.error (.fault "stopped"))]

theorem admission_busy :
    Reached smallWorkshop (after smallWorkshop busy) ∧ (after smallWorkshop busy).handed.length = 1 ∧
    (after smallWorkshop busy).running.length = 1 ∧
    Reached smallWorkshop (after smallWorkshop busyToTheEnd) ∧
    (after smallWorkshop busyToTheEnd).inFlight = [] ∧ (after smallWorkshop busyToTheEnd).free = 2 := by
  have reached := reached_after smallWorkshop busy (by decide)
  have reachedEnd := reached_after smallWorkshop busyToTheEnd (by decide)
  obtain ⟨-, balance, -⟩ := admission smallWorkshop _ reached
  obtain ⟨-, -, done⟩ := admission smallWorkshop _ reachedEnd
  have ended : ∀ c ∈ (after smallWorkshop busyToTheEnd).calls, isEnded c.stage = true := by decide +kernel
  have spare : (after smallWorkshop busy).handed.length = 1 ∧ (after smallWorkshop busy).free = 0 := by decide +kernel
  have limit : smallWorkshop.config.limits.jobs = 2 := rfl
  obtain ⟨table, all⟩ := done ended
  exact ⟨reached, spare.1, by omega, reachedEnd, table, all⟩

end AsmScope.Service
