import AsmScope.Proofs.Service.Runs
import AsmScope.Rehearsal.Basic

/-! A rehearsal changes its service by events only, so the workshop of the service, with its compilers and its
configuration, is at the end what it was at the beginning. -/

namespace AsmScope.Rehearsal

theorem wake_service (r : Rehearsal) : r.wake.service = r.service := by
  have added (calls : List Call) (r : Rehearsal) :
      (calls.foldl (fun r c => r.add ⟨r.now, c.id, .call⟩) r).service = r.service := by
    induction calls generalizing r with
    | nil => rfl
    | cons c calls ih => rw [List.foldl_cons, ih]; rfl
  exact added _ r

theorem advance_workshop (r : Rehearsal) (id : Nat) (plan : Plan Result) :
    (r.advance id plan).service.workshop = r.service.workshop := by
  cases plan with
  | ended outcome => rw [advance, wake_service, Service.step_workshop]
  | await w next => rfl

theorem begin_workshop (r : Rehearsal) (id : Nat) : (r.begin id).service.workshop = r.service.workshop := by
  unfold begin
  split
  · exact advance_workshop ..
  · rfl

theorem takeTurn_workshop (r : Rehearsal) (d : Due) : (r.takeTurn d).service.workshop = r.service.workshop := by
  unfold takeTurn
  split
  · rw [begin_workshop, wake_service, Service.step_workshop]
  · exact advance_workshop ..

theorem takeTurns_workshop (limit : Option Int) (fuel : Nat) (r : Rehearsal) :
    (takeTurns limit fuel r).service.workshop = r.service.workshop := by
  induction fuel generalizing r with
  | zero => rfl
  | succ fuel ih =>
    unfold takeTurns
    split
    · rfl
    · split
      · rw [ih, takeTurn_workshop]
        rfl
      · rfl

theorem submit_workshop (r : Rehearsal) (request : Request) :
    (r.submit request).2.service.workshop = r.service.workshop := by
  unfold submit
  rw [begin_workshop]
  exact Service.step_workshop ..

theorem submitAll_workshop (r : Rehearsal) (requests : List Request) :
    (r.submitAll requests).2.service.workshop = r.service.workshop := by
  induction requests generalizing r with
  | nil => rfl
  | cons request requests ih => exact (ih _).trans (submit_workshop r request)

theorem single_workshop (r : Rehearsal) (request : Request) :
    (r.single request).2.service.workshop = r.service.workshop :=
  (takeTurns_workshop ..).trans (submitAll_workshop r [request])

end AsmScope.Rehearsal
