import AsmScope.Proofs.Job.Ending
import AsmScope.Proofs.Rehearsal.Workshop
import AsmScope.Proofs.Service.Alone

/-! A request by itself on a described machine. What the machine cannot do it tells as a failure of files or of
programs, and its turns are enough for a job from its beginning to its end. So the call ends, and afterwards the service
waits for the next one as before. -/

namespace AsmScope

theorem Machine.failsOnly_perform (m : Machine) (work : Work) : FailsOnly Failure.Told (m.perform work).1 := by
  intro e failed
  cases work with
  | acquire =>
    simp only [perform, Machine.acquire] at failed
    split at failed
    · cases failed
    · obtain rfl := Except.error.inj failed
      rfl
  | write path text =>
    simp only [perform, Machine.write] at failed
    split at failed
    · cases failed
    · obtain rfl := Except.error.inj failed
      rfl
  | launch l =>
    simp only [perform, Machine.launch] at failed
    split at failed
    · obtain rfl := Except.error.inj failed
      rfl
    · split at failed
      · obtain rfl := Except.error.inj failed
        rfl
      · cases failed
  | measure path =>
    simp only [perform, Machine.measure] at failed
    split at failed
    · cases failed
    · cases failed
    · obtain rfl := Except.error.inj failed
      rfl
  | read path =>
    simp only [perform, Machine.read] at failed
    cases found : m.tree.read path with
    | ok octets =>
      rw [found] at failed
      cases failed
    | error fault =>
      rw [found] at failed
      obtain rfl := Except.error.inj failed
      rfl
  | release directory => cases failed
  | pause => cases failed

namespace Rehearsal

theorem wake_of_unready {r : Rehearsal} (unready : ∀ c ∈ r.service.calls, isReady r.service c = false) :
    r.wake = r := by
  have none : (r.service.calls.filter fun c => isReady r.service c && !r.hasTurn c.id) = [] :=
    List.filter_eq_nil_iff.mpr fun c hc => by simp [unready c hc]
  rw [wake, none]
  rfl

/-- A plan that is alone on the agenda runs to its end, if there are turns for all of its waits. -/
theorem takeTurns_advance {last : Outcome → Prop} {n : Nat} (fuel id : Nat) {plan : Plan Result} {r : Rehearsal}
    (ends : plan.Ends Failure.Told last n) (enough : n ≤ fuel) (empty : r.agenda = [])
    (unready : ∀ outcome, ∀ c ∈ (r.service.step (.finish id outcome)).calls,
      isReady (r.service.step (.finish id outcome)) c = false) :
    ∃ trace outcome machine, plan.Runs trace outcome ∧ (∀ a ∈ trace, FailsOnly Failure.Told a.answer) ∧
      takeTurns none fuel (r.advance id plan) =
        { r with service := r.service.step (.finish id outcome), machine := machine } := by
  induction ends generalizing r fuel with
  | @ended n outcome h =>
    refine ⟨[], outcome, r.machine, .ended outcome, by simp, ?_⟩
    rw [advance, wake_of_unready (unready outcome)]
    cases fuel with
    | zero => rfl
    | succ fuel => simp only [takeTurns, empty]
  | @await n work next rest ih =>
    obtain ⟨fuel, rfl⟩ := Nat.exists_eq_add_one_of_ne_zero (Nat.ne_of_gt (Nat.lt_of_lt_of_le (Nat.succ_pos n) enough))
    obtain ⟨service, machine, agenda, number⟩ := r
    obtain rfl : agenda = [] := empty
    have answered := Machine.failsOnly_perform machine work
    rcases performed : machine.perform work with ⟨answer, ms, later⟩
    rw [performed] at answered
    -- The only turn that is due is that of the job itself, so the next one to be taken is its.
    have turn : takeTurns none (fuel + 1) (advance ⟨service, machine, [], number⟩ id (.await work next)) =
        takeTurns none fuel
          (advance (setNow ⟨service, later, [], number⟩ (machine.manager.now + ms * Machine.nanosPerMilli)) id
            (next answer)) := by
      rw [advance, performed]
      rfl
    obtain ⟨trace, outcome, machine', ran, answers, turns⟩ := ih answer answered fuel (Nat.le_of_succ_le_succ enough)
      (r := setNow ⟨service, later, [], number⟩ (machine.manager.now + ms * Machine.nanosPerMilli)) rfl unready
    refine ⟨⟨work, answer⟩ :: trace, outcome, machine', .await ran, ?_, turn.trans turns⟩
    exact List.forall_mem_cons.mpr ⟨answered, answers⟩

def waitingService (w : Workshop) (store : Store) : Service := { Service.start w with store := store }

def waiting (w : Workshop) (store : Store) (machine : Machine) (next : Nat) : Rehearsal :=
  ⟨waitingService w store, machine, [], next⟩

def IsWaiting (w : Workshop) (r : Rehearsal) : Prop := ∃ store machine next, r = waiting w store machine next

section Single
variable {w : Workshop} {store store' : Store} {machine machine' : Machine} {next : Nat} {q : Request}
  {outcome : Outcome}

theorem outcome?_of_ended (w : Workshop) (store : Store) (next : Nat) (outcome : Outcome) :
    ((waitingService w store).addCall next (.ended outcome)).outcome? next = some outcome := by
  simp [Service.outcome?, Service.call?, Service.addCall, waitingService, Service.start]

theorem single_of_turns (turns : takeTurns none (fuelFor 1) ((waiting w store machine next).submit q).2 =
      ⟨(waitingService w store').addCall next (.ended outcome), machine', [], next + 1⟩) :
    (waiting w store machine next).single q = (outcome, waiting w store' machine' (next + 1)) := by
  have single : (waiting w store machine next).single q =
      let r := takeTurns none (fuelFor 1) ((waiting w store machine next).submit q).2
      (r.outcomeOf next, { r with service := { r.service with calls := [] } }) := rfl
  rw [single, turns]
  dsimp only
  rw [outcomeOf, outcome?_of_ended]
  rfl

theorem single_of_ended
    (came : (waitingService w store).submit next q = (waitingService w store').addCall next (.ended outcome)) :
    (waiting w store machine next).single q = (outcome, waiting w store' machine (next + 1)) := by
  have submitted : ((waiting w store machine next).submit q).2 =
      ⟨(waitingService w store').addCall next (.ended outcome), machine, [], next + 1⟩ := by
    simp only [waiting, submit, Service.step, came]
    simp [begin, Service.job?, Service.call?, Service.addCall, waitingService, Service.start]
  refine single_of_turns ?_
  rw [submitted]
  rfl

def running (w : Workshop) (store : Store) (next : Nat) (q : Request) : Service :=
  (((waitingService w store).enter q.key next).takePermit).addCall next (.running q.key q)

theorem step_finish_running (limit : 0 < w.config.limits.jobs) (store : Store) (next : Nat) (q : Request)
    (outcome : Outcome) :
    ∃ store', (running w store next q).step (.finish next outcome) =
      (waitingService w store').addCall next (.ended outcome) := by
  have permits : w.config.limits.jobs - 1 + 1 = w.config.limits.jobs := Nat.sub_add_cancel limit
  have ended : (running w store next q).step (.finish next outcome) =
      ((waitingService w store).addCall next (.ended outcome)).keep q.key outcome := by
    simp [Service.step, Service.finish, Service.call?, running, Service.addCall, Service.takePermit, Service.enter,
      waitingService, Service.start, Service.releasePermit, Service.handNext, Service.handFirst, Service.endLeader,
      Service.forget, Service.answerJoined, Service.setStage, permits]
  rw [ended]
  unfold Service.keep
  split
  · split
    · exact ⟨_, rfl⟩
    · exact ⟨store, rfl⟩
  · exact ⟨store, rfl⟩

theorem isReady_of_ended (s : Service) (next : Nat) (outcome : Outcome) :
    ∀ c ∈ ((waitingService w store).addCall next (.ended outcome)).calls, isReady s c = false := by
  intro c hc
  rw [show c = ⟨next, .ended outcome, false⟩ by simpa [Service.addCall, waitingService, Service.start] using hc]
  rfl

theorem job?_running (w : Workshop) (store : Store) (next : Nat) (q : Request) :
    (running w store next q).job? next = some q := by
  simp [running, Service.job?, Service.call?, Service.addCall, waitingService, Service.start, Service.takePermit,
    Service.enter]

/-- A call that comes to run its job has the turns that the job needs. -/
theorem single_of_running {q' : Request} (limit : 0 < w.config.limits.jobs) (machine : Machine)
    (came : (waitingService w store).submit next q = running w store next q') (here : w.IsLocal q'.compiler) :
    ∃ trace outcome store' machine', (Compile.job w q').Runs trace outcome ∧
      (∀ a ∈ trace, FailsOnly Failure.Told a.answer) ∧
      (running w store next q').step (.finish next outcome) =
        (waitingService w store').addCall next (.ended outcome) ∧
      (waiting w store machine next).single q = (outcome, waiting w store' machine' (next + 1)) := by
  have submitted : ((waiting w store machine next).submit q).2 =
      advance ⟨running w store next q', machine, [], next + 1⟩ next (Compile.job w q') := by
    simp only [waiting, submit, Service.step, came, begin, job?_running]
    rfl
  obtain ⟨trace, outcome, machine', ran, answers, turns⟩ :=
    takeTurns_advance (r := ⟨running w store next q', machine, [], next + 1⟩) (fuelFor 1) next
      (Compile.ends_job here) (by decide) rfl fun outcome => by
        obtain ⟨store', ended⟩ := step_finish_running limit store next q' outcome
        rw [ended]
        exact isReady_of_ended _ next outcome
  obtain ⟨store', ended⟩ := step_finish_running limit store next q' outcome
  refine ⟨trace, outcome, store', machine', ran, answers, ended, single_of_turns ?_⟩
  rw [submitted, turns, ended]

theorem normalFor_compiler (entry : Entry) (r : Request) : (Workshop.normalFor entry r).compiler = r.compiler := by
  unfold Workshop.normalFor
  split <;> rfl

/-- What is said of a request by itself. Its call comes to the outcome, and the service waits again. -/
structure Served (w : Workshop) (r : Rehearsal) (q : Request) : Prop where
  waits : (r.single q).2.IsWaiting w
  comesTo : r.service.ComesTo r.next q (r.single q).1
  told : w.IsLocal q.compiler → FailsOnly Failure.Told (r.single q).1
  kept : ∀ e, (r.single q).1 = .error e →
    (r.single q).2.service.store = r.service.store ∧ (r.single q).2.service.inFlight = r.service.inFlight

theorem served_of_events (events : List ServiceEvent)
    (own : ∀ e ∈ events, ServiceEvent.IsOf next e)
    (genuine : ((waitingService w store).submit next q).IsGenuine events)
    (ended : ((waitingService w store).submit next q).run events =
      (waitingService w store').addCall next (.ended outcome))
    (told : w.IsLocal q.compiler → FailsOnly Failure.Told outcome)
    (single : (waiting w store machine next).single q = (outcome, waiting w store' machine' (next + 1))) :
    Served w (waiting w store machine next) q := by
  have quiet : (waitingService w store).IsQuietFor next := fun c hc => nomatch hc
  have told' : (((waitingService w store).submit next q).run events).outcome? next = some outcome := by
    rw [ended, outcome?_of_ended]
  refine ⟨?_, ?_, ?_, ?_⟩
  all_goals rw [single]
  · exact ⟨store', machine', next + 1, rfl⟩
  · exact ⟨events, own, genuine, told'⟩
  · exact told
  · rintro e rfl
    have kept := (Service.beside_of_failed_alone quiet rfl own told').1
    rw [ended] at kept
    exact ⟨kept, rfl⟩

theorem IsWaiting.served {r : Rehearsal} (h : r.IsWaiting w) (limit : 0 < w.config.limits.jobs) (q : Request) :
    Served w r q := by
  obtain ⟨store, machine, next, rfl⟩ := h
  have atOnce {outcome : Outcome} {store' : Store}
      (came : (waitingService w store).submit next q = (waitingService w store').addCall next (.ended outcome))
      (told : w.IsLocal q.compiler → FailsOnly Failure.Told outcome) : Served w (waiting w store machine next) q :=
    served_of_events [] (by simp) (Service.isGenuine_nil _) came told (single_of_ended came)
  have move := Service.submit_moves (waitingService w store) next q
  generalize came : (waitingService w store).submit next q = t at move
  cases move with
  | refused inadmissible =>
    refine atOnce came fun here => ?_
    obtain ⟨entry, found, here⟩ := here
    exact nomatch (Service.admissible_of_local found here).symm.trans inadmissible
  | found => exact atOnce came fun _ => failsOnly_ok _
  | joined _ _ underWay => cases underWay
  | invalid _ _ _ bad => exact atOnce came fun _ => failsOnly_error_iff.mpr (Workshop.told_of_validate bad)
  | queued _ _ _ _ locked =>
    have free : (w.config.limits.jobs == 0) = false := beq_eq_false_iff_ne.mpr (Nat.ne_of_gt limit)
    simp [Service.isLocked, waitingService, Service.start, free] at locked
  | led admissible =>
    obtain ⟨⟨entry, found, here⟩, normal, -⟩ := Service.admissible_eq_ok admissible
    obtain rfl := Except.ok.inj ((Workshop.normalize_of_find? found).symm.trans normal)
    have here : w.IsLocal (Workshop.normalFor entry q).compiler := ⟨entry, by rwa [normalFor_compiler], here⟩
    obtain ⟨trace, outcome, store', machine', ran, answers, ended, single⟩ := single_of_running limit machine came here
    refine served_of_events [.finish next outcome] (by simp [ServiceEvent.IsOf]) ?_ ?_
      (fun _ => ((Compile.ends_job here).of_runs ran answers).2) single
    · rw [came]
      exact Service.isGenuine_finish (job?_running ..) ran answers
    · rw [came]
      exact ended
  | idle known => cases known

end Single

end Rehearsal
end AsmScope
