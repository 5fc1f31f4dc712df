import AsmScope.Proofs.Job.Ending
import AsmScope.Proofs.Service.Admission
import AsmScope.Proofs.Service.History

/-! A call that is alone. Where every other call has ended, what a call leaves behind is its own: as long as it is under
way it has the only entry in the table, and if it fails the store and the table are as they were before it came. -/

namespace AsmScope

def ServiceEvent.IsOf (id : Nat) : ServiceEvent → Prop
  | .submit _ _ => False
  | .resume number | .finish number _ | .cancel number => number = id

namespace Service

/-- What the service holds at a stage of the only call in progress, compared with what it held before. -/
inductive Brought (s t : Service) (id : Nat) : Stage → Prop where
  | underWay {stage : Stage} {key : String} {r : Request} (led : led? stage = some (key, r)) (store : t.store = s.store)
      (table : t.inFlight = [(key, id)]) : Brought s t id stage
  | failed {e : Failure} (store : t.store = s.store) (table : t.inFlight = []) : Brought s t id (.ended (.error e))
  | made (result : Result) : Brought s t id (.ended (.ok result))

def HasLast (s t : Service) (c : Call) : Prop := t.calls = s.calls ++ [c] ∧ Brought s t c.id c.stage

section Alone
variable {s t : Service} {id : Nat} {c : Call}

def IsQuietFor (s : Service) (id : Nat) : Prop := ∀ c ∈ s.calls, isEnded c.stage = true ∧ c.id ≠ id

theorem map_calls_of_quiet (quiet : s.IsQuietFor id) {f : Call → Call}
    (spares : ∀ d : Call, isEnded d.stage = true → d.id ≠ id → f d = d) (c : Call) :
    (s.calls ++ [c]).map f = s.calls ++ [f c] := by
  rw [List.map_append, List.map_singleton]
  congr 1
  refine (List.map_congr_left fun d hd => ?_).trans (List.map_id' s.calls)
  exact spares d (quiet d hd).1 (quiet d hd).2

theorem settled_of_ended {d : Call} (outcome : Outcome) (ended : isEnded d.stage = true) (other : d.id ≠ id) :
    settled id outcome d = d := by
  rw [settled, if_neg other]
  split
  · rename_i stage
    rw [stage] at ended
    cases ended
  · rfl

theorem call?_of_last (quiet : s.IsQuietFor c.id) (last : s.HasLast t c) : t.call? c.id = some c := by
  rw [call?, last.1, List.find?_append, List.find?_eq_none.mpr]
  · simp
  · intro d hd same
    exact (quiet d hd).2 (by simpa using same)

theorem HasLast.submit (id : Nat) (empty : s.inFlight = []) (r : Request) :
    ∃ c, c.id = id ∧ s.HasLast (s.submit id r) c := by
  have move := submit_moves s id r
  generalize s.submit id r = t at move
  cases move with
  | refused | invalid => exact ⟨⟨id, _, false⟩, rfl, rfl, .failed rfl empty⟩
  | found => exact ⟨⟨id, _, false⟩, rfl, rfl, .made _⟩
  | joined _ _ underWay =>
    rw [leader?, empty] at underWay
    cases underWay
  | queued => exact ⟨⟨id, .queued _ _, false⟩, rfl, rfl, .underWay rfl rfl (by simp [addCall, enqueue, enter, empty])⟩
  | led => exact ⟨⟨id, .running _ _, false⟩, rfl, rfl, .underWay rfl rfl (by simp [addCall, takePermit, enter, empty])⟩
  | idle known => cases known

theorem HasLast.endLeader {u v : Service} (quiet : s.IsQuietFor c.id) (last : s.HasLast t c) {key : String}
    {r : Request} (led : led? c.stage = some (key, r)) (outcome : Outcome) (same : u.calls = t.calls)
    (store : u.store = t.store) (table : u.inFlight = t.inFlight)
    (ended : v = (u.endLeader c.id key outcome).keep key outcome) :
    ∃ d, d.id = c.id ∧ s.HasLast v d := by
  subst ended
  obtain ⟨calls, brought⟩ := last
  refine ⟨settled c.id outcome c, settled_id .., ?_, ?_⟩
  · rw [(keep_beside ..).2.2, endLeader_calls, same, calls]
    exact map_calls_of_quiet quiet (fun d ended other => settled_of_ended outcome ended other) c
  · rw [settled_id, settled, if_pos rfl]
    cases outcome with
    | ok result => exact .made result
    | error e =>
      generalize c.stage = stage at led brought
      cases brought with
      | underWay led' store' table' =>
        obtain ⟨rfl, rfl⟩ := Prod.mk.inj (Option.some.inj (led.symm.trans led'))
        refine .failed ?_ ?_
        · rw [keep_store_error, (endLeader_beside ..).2.1, store, store']
        · rw [(keep_beside ..).2.1, (endLeader_beside ..).2.2, table, table']
          simp
      | failed | made => cases led

theorem HasLast.step (quiet : s.IsQuietFor c.id) (last : s.HasLast t c) {e : ServiceEvent} (own : e.IsOf c.id) :
    ∃ d, d.id = c.id ∧ s.HasLast (t.step e) d := by
  have itself := call?_of_last quiet last
  have move := step_moves t e
  generalize t.step e = u at move
  cases move with
  | refused | found | joined | invalid | queued | led => exact own.elim
  | idle => exact ⟨c, rfl, last⟩
  | withdrawn call stage | returned call stage =>
    obtain rfl := own
    obtain rfl := Option.some.inj (itself.symm.trans call)
    exact last.endLeader quiet (by rw [stage]; rfl) (.error .cancelled) (by simp) (by simp) (by simp) rfl
  | finished call stage =>
    obtain rfl := own
    obtain rfl := Option.some.inj (itself.symm.trans call)
    exact last.endLeader quiet (by rw [stage]; rfl) _ (by simp) (by simp) (by simp) rfl
  | @begun number d key r ticket call stage =>
    obtain rfl := own
    obtain rfl := Option.some.inj (itself.symm.trans call)
    obtain ⟨calls, brought⟩ := last
    refine ⟨staged c.id (.running key r) c, staged_id .., ?_, ?_⟩
    · rw [setStage_calls, (handIfFree_beside _).2.2.2, (dropTicket_beside ..).2.2.2, calls]
      exact map_calls_of_quiet quiet (fun d _ other => by rw [staged, if_neg other]) c
    · rw [staged_id, staged, if_pos rfl]
      rw [stage] at brought
      cases brought with
      | underWay led store table =>
        obtain ⟨rfl, rfl⟩ := Prod.mk.inj (Option.some.inj led)
        exact .underWay rfl (by simpa [setStage] using store) (by simpa [setStage] using table)
  | left call stage | told call stage =>
    obtain rfl := own
    obtain rfl := Option.some.inj (itself.symm.trans call)
    obtain ⟨-, brought⟩ := last
    rw [stage] at brought
    cases brought with
    | underWay led => cases led
  | cancelled =>
    obtain rfl := own
    obtain ⟨calls, brought⟩ := last
    refine ⟨flagged c.id c, flagged_id .., ?_, ?_⟩
    · rw [cancel_calls, calls]
      exact map_calls_of_quiet quiet (fun d _ other => by rw [flagged, if_neg fun both => other both.1]) c
    · rw [flagged_id, flagged_stage]
      generalize c.stage = stage at brought
      cases brought with
      | underWay led store table => exact .underWay led store table
      | failed store table => exact .failed store table
      | made result => exact .made result

theorem HasLast.run (quiet : s.IsQuietFor c.id) (last : s.HasLast t c) {events : List ServiceEvent}
    (own : ∀ e ∈ events, e.IsOf c.id) : ∃ d, d.id = c.id ∧ s.HasLast (t.run events) d := by
  induction events generalizing t c with
  | nil => exact ⟨c, rfl, last⟩
  | cons e events ih =>
    rw [List.forall_mem_cons] at own
    obtain ⟨d, same, next⟩ := last.step quiet own.1
    rw [← same] at quiet own ⊢
    exact ih quiet next own.2

/-- A call that is alone and fails leaves the store and the table as they were. -/
theorem beside_of_failed_alone (quiet : s.IsQuietFor id) (empty : s.inFlight = []) {r : Request}
    {events : List ServiceEvent} (own : ∀ e ∈ events, e.IsOf id) {e : Failure}
    (failed : ((s.submit id r).run events).outcome? id = some (.error e)) :
    ((s.submit id r).run events).store = s.store ∧ ((s.submit id r).run events).inFlight = s.inFlight := by
  obtain ⟨c, rfl, came⟩ := HasLast.submit id empty r
  obtain ⟨⟨number, stage, flag⟩, same, last⟩ := came.run quiet own
  obtain rfl : number = c.id := same
  have call := call?_of_last (c := ⟨c.id, stage, flag⟩) quiet last
  obtain ⟨-, brought⟩ := last
  rw [outcome?, call] at failed
  cases brought with
  | underWay led =>
    cases stage with
    | queued | running => cases failed
    | _ => cases led
  | failed store table => exact ⟨store, table.trans empty.symm⟩
  | made => cases failed

end Alone

/-- Each job that ends comes to what a run of it comes to, whatever the machine answers. No answer is one that has a
status of its own, for that is never how a file or a program fails. -/
def IsGenuine (s : Service) (events : List ServiceEvent) : Prop :=
  ∀ before id outcome, before ++ [.finish id outcome] <+: events → ∀ r, (s.run before).job? id = some r →
    ∃ trace, (Compile.job s.workshop r).Runs trace outcome ∧ ∀ a ∈ trace, FailsOnly Failure.Told a.answer

theorem isGenuine_nil (s : Service) : s.IsGenuine [] :=
  fun before _ _ first => absurd (List.prefix_nil.mp first) (by simp)

theorem isGenuine_finish {s : Service} {id : Nat} {outcome : Outcome} {r : Request} {trace : List Answered}
    (job : s.job? id = some r) (ran : (Compile.job s.workshop r).Runs trace outcome)
    (answers : ∀ a ∈ trace, FailsOnly Failure.Told a.answer) : s.IsGenuine [.finish id outcome] := by
  intro before number outcome' first r' job'
  cases before with
  | nil =>
    obtain ⟨same, -⟩ := List.cons_prefix_cons.mp first
    obtain ⟨rfl, rfl⟩ := ServiceEvent.finish.inj same
    obtain rfl := Option.some.inj (job.symm.trans job')
    exact ⟨trace, ran, answers⟩
  | cons e before => exact absurd (List.prefix_nil.mp (List.cons_prefix_cons.mp first).2) (by simp)

def ComesTo (s : Service) (id : Nat) (r : Request) (outcome : Outcome) : Prop :=
  ∃ events, (∀ e ∈ events, ServiceEvent.IsOf id e) ∧ (s.submit id r).IsGenuine events ∧
    ((s.submit id r).run events).outcome? id = some outcome

end Service
end AsmScope
