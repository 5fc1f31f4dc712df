import AsmScope.Proofs.Compile.RequestKey
import AsmScope.Proofs.Service.Admissible
import AsmScope.Proofs.Service.History
import AsmScope.Rehearsal.Basic

/-! Requests that are not taken. A request is looked up in the store and among the jobs under way before it is
validated, so a refused one might be answered from there. It never is: what is stored or under way was valid when
it came in, and a key belongs to one request only. -/

namespace AsmScope

def Failure.isValidation : Failure → Bool
  | .unreadableOptions .. | .badOptions _ | .badIncludes _ | .remoteOnly _ => true
  | _ => false

namespace Workshop

/-- Why a request is not taken. The first reason counts: the compiler is not configured or not of this machine,
some options are bad, or the source is. -/
inductive Refuses (w : Workshop) (r : Request) : Failure → Prop where
  | unknown (absent : w.registry.find? r.compiler = none) : Refuses w r (.unknownCompiler r.compiler)
  | remote {entry : Entry} (found : w.registry.find? r.compiler = some entry)
      (elsewhere : entry.settings.isRemote = true) : Refuses w r (.remoteOnly entry.settings.id)
  | options {entry : Entry} (found : w.registry.find? r.compiler = some entry)
      (here : entry.settings.isRemote = false) (bad : w.screen.bad r.options ≠ []) :
      Refuses w r (.badOptions (w.screen.bad r.options))
  | source {entry : Entry} {failure : Failure} (found : w.registry.find? r.compiler = some entry)
      (here : entry.settings.isRemote = false) (good : w.screen.bad r.options = [])
      (problem : Source.check r.source = some failure) : Refuses w r failure

theorem validate_of_bad {w : Workshop} {r : Request} (bad : w.screen.bad r.options ≠ []) :
    w.validate r = .error (.badOptions (w.screen.bad r.options)) := by
  unfold validate
  split
  · rename_i good
    exact absurd good bad
  · rfl

theorem validate_of_problem {w : Workshop} {r : Request} {failure : Failure} (good : w.screen.bad r.options = [])
    (problem : Source.check r.source = some failure) : w.validate r = .error failure := by
  simp only [validate, good, problem]

theorem isValidation_of_check {source : String} {failure : Failure} (problem : Source.check source = some failure) :
    failure.isValidation = true := by
  unfold Source.check at problem
  split at problem
  · cases problem
  · obtain rfl := Option.some.inj problem
    rfl

theorem exists_refuses {w : Workshop} {r : Request} {entry : Entry} (found : w.registry.find? r.compiler = some entry)
    (wrong : entry.settings.isRemote = true ∨ w.screen.bad r.options ≠ [] ∨ (Source.check r.source).isSome = true) :
    ∃ failure, failure.isValidation = true ∧ w.Refuses r failure := by
  cases here : entry.settings.isRemote with
  | true => exact ⟨_, rfl, .remote found here⟩
  | false =>
    by_cases good : w.screen.bad r.options = []
    · simp only [here, good, Bool.false_eq_true, ne_eq, not_true_eq_false, false_or, Option.isSome_iff_exists] at wrong
      obtain ⟨failure, problem⟩ := wrong
      exact ⟨failure, isValidation_of_check problem, .source found here good problem⟩
    · exact ⟨_, rfl, .options found here good⟩

end Workshop

namespace Service

namespace Coherent

theorem find?_of_invalid {s : Service} (h : Coherent s) {r : Request} {failure : Failure}
    (bad : s.workshop.validate r = .error failure) : s.store.find? r.key = none := by
  rw [Store.find?_eq_none_iff]
  intro stored
  obtain ⟨r', same, valid⟩ := h.stored r.key stored
  obtain rfl := Request.key_injective same
  exact nomatch valid.symm.trans bad

theorem leader?_of_invalid {s : Service} (h : Coherent s) {r : Request} {failure : Failure}
    (bad : s.workshop.validate r = .error failure) : s.leader? r.key = none := by
  cases underWay : s.leader? r.key with
  | none => rfl
  | some leader =>
    obtain ⟨c, hc, -, r', led⟩ := (h.table r.key leader).mp (mem_of_leader? underWay)
    obtain ⟨same, valid⟩ := h.led c hc r.key r' led
    obtain rfl := Request.key_injective same
    exact nomatch valid.symm.trans bad

theorem submit_of_invalid {s : Service} (h : Coherent s) (id : Nat) {r : Request} {entry : Entry} {failure : Failure}
    (found : s.workshop.registry.find? r.compiler = some entry) (here : entry.settings.isRemote = false)
    (bad : s.workshop.validate r = .error failure) : s.submit id r = s.addCall id (.ended (.error failure)) := by
  have bad' : s.workshop.validate (Workshop.normalFor entry r) = .error failure :=
    (Workshop.validate_normalFor ..).trans bad
  have unstored := Store.get_of_find?_none (h.find?_of_invalid bad')
  simp only [submit, admissible_of_local found here, unstored, h.leader?_of_invalid bad', bad']

theorem submit_of_refuses {s : Service} (h : Coherent s) (id : Nat) {r : Request} {failure : Failure}
    (refused : s.workshop.Refuses r failure) : s.submit id r = s.addCall id (.ended (.error failure)) := by
  cases refused with
  | unknown absent => simp only [submit, admissible_of_find?_none absent]
  | remote found elsewhere => simp only [submit, admissible_of_remote found elsewhere]
  | options found here bad => exact h.submit_of_invalid id found here (Workshop.validate_of_bad bad)
  | source found here good problem =>
    exact h.submit_of_invalid id found here (Workshop.validate_of_problem good problem)

end Coherent

/-- The request comes to nothing but its failure. Beside the new call the service is as before; no work is asked for
on any machine, and the call never gets a job to run. -/
structure RefusedWith (w : Workshop) (events : List ServiceEvent) (id : Nat) (r : Request) (failure : Failure) :
    Prop where
  outcome : ((after w events).step (.submit id r)).outcome? id = some (.error failure)
  store : ((after w events).step (.submit id r)).store = (after w events).store
  inFlight : ((after w events).step (.submit id r)).inFlight = (after w events).inFlight
  free : ((after w events).step (.submit id r)).free = (after w events).free
  tickets : ((after w events).step (.submit id r)).tickets = (after w events).tickets
  calls : ((after w events).step (.submit id r)).calls =
    (after w events).calls ++ [⟨id, .ended (.error failure), false⟩]
  machine : ∀ m : Rehearsal, m.service = after w events → m.next = id →
    (m.submit r).2.machine = m.machine ∧ (m.submit r).2.agenda = m.agenda
  idle : ∀ more, Distinct (events ++ [.submit id r] ++ more) →
    (after w (events ++ [.submit id r] ++ more)).job? id = none

theorem EndedWith.job? {s : Service} (ids : (s.calls.map Call.id).Nodup) {id : Nat} {outcome : Outcome}
    (h : EndedWith s id outcome) : s.job? id = none := by
  obtain ⟨c, hc, rfl, ended⟩ := h
  cases running : s.job? c.id with
  | none => rfl
  | some r =>
    obtain ⟨d, key, call, stage⟩ := call?_of_job? running
    rw [eq_of_call? ids call hc rfl, stage] at ended
    cases ended

theorem refusedWith_of_refuses {w : Workshop} {events : List ServiceEvent} {id : Nat} {r : Request}
    (distinct : Distinct (events ++ [.submit id r])) {failure : Failure} (refused : w.Refuses r failure) :
    RefusedWith w events id r failure := by
  have coherent : Coherent (after w events) := coherent_after distinct.of_append
  have next : (after w events).step (.submit id r) = (after w events).addCall id (.ended (.error failure)) :=
    coherent.submit_of_refuses id (by rwa [after_workshop])
  have ids := ids_nodup (w := w) distinct
  have past : EndedWith (after w (events ++ [.submit id r])) id (.error failure) := by
    rw [after_concat, next]
    exact ⟨_, List.mem_append_right _ (List.mem_singleton_self _), rfl, rfl⟩
  refine ⟨?_, by rw [next]; rfl, by rw [next]; rfl, by rw [next]; rfl, by rw [next]; rfl, by rw [next]; rfl, ?_, ?_⟩
  · rw [← after_concat]
    exact past.outcome? ids
  · rintro m service rfl
    have none : (m.service.step (.submit m.next r)).job? m.next = none := by
      rw [service, ← after_concat]
      exact past.job? ids
    simp only [Rehearsal.submit, Rehearsal.begin, none, and_self]
  · intro more further
    exact (past.after_append further).job? (ids_nodup further)

/-- Rejection. In every state that a run can reach, a request whose compiler is not configured is refused as such,
and one whose compiler is elsewhere, or with a bad option or a bad source, is told to be wrong; either way it leaves
no trace. -/
theorem rejection_leaves_no_trace (w : Workshop) (events : List ServiceEvent) (id : Nat) (r : Request)
    (distinct : Distinct (events ++ [.submit id r])) :
    (w.registry.find? r.compiler = none → RefusedWith w events id r (.unknownCompiler r.compiler)) ∧
    ∀ entry, w.registry.find? r.compiler = some entry →
      entry.settings.isRemote = true ∨ w.screen.bad r.options ≠ [] ∨ (Source.check r.source).isSome = true →
        ∃ failure, failure.isValidation = true ∧ w.Refuses r failure ∧ RefusedWith w events id r failure := by
  constructor
  · intro absent
    exact refusedWith_of_refuses distinct (.unknown absent)
  · intro entry found wrong
    obtain ⟨failure, validation, refused⟩ := Workshop.exists_refuses found wrong
    exact ⟨failure, validation, refused, refusedWith_of_refuses distinct refused⟩

def forbiddenRequest : Request := { plainRequest with options := ["@file"] }

/-- A bad option beside a job for the same source. -/
theorem rejection_beside_job :
    Distinct [.submit 0 plainRequest, .submit 1 forbiddenRequest] ∧
    ∃ failure, smallWorkshop.Refuses forbiddenRequest failure ∧
      RefusedWith smallWorkshop [.submit 0 plainRequest] 1 forbiddenRequest failure := by
  have distinct : Distinct [.submit 0 plainRequest, .submit 1 forbiddenRequest] := by decide
  obtain ⟨-, wrong⟩ := rejection_leaves_no_trace smallWorkshop [.submit 0 plainRequest] 1 forbiddenRequest distinct
  cases found : smallWorkshop.registry.find? forbiddenRequest.compiler with
  | none =>
    have known : (smallWorkshop.registry.find? forbiddenRequest.compiler).isSome = true := by decide +kernel
    rw [found] at known
    cases known
  | some entry =>
    obtain ⟨failure, -, refused, trace⟩ := wrong entry found (.inr (.inl (by decide +kernel)))
    exact ⟨distinct, failure, refused, trace⟩

end Service
end AsmScope
