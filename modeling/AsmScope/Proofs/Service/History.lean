import AsmScope.Proofs.Service.SingleFlight

/-! What a run has seen: the submissions that came in and the jobs that came to an end, each with the events
before it. A call that has ended stays as it ended, so a leader's job ends only once. -/

namespace AsmScope.Service

/-- A request that came in for a call, after some events. -/
structure Submission where
  before : List ServiceEvent
  id : Nat
  request : Request

namespace Submission

def event (sub : Submission) : ServiceEvent := .submit sub.id sub.request

def IsIn (sub : Submission) (events : List ServiceEvent) : Prop := sub.before ++ [sub.event] <+: events

def met (w : Workshop) (sub : Submission) : Service := after w sub.before

def left (w : Workshop) (sub : Submission) : Service := after w (sub.before ++ [sub.event])

end Submission

/-- A job of a leader, with the events before its end. -/
structure Job where
  before : List ServiceEvent
  leader : Nat
  request : Request
  outcome : Outcome

namespace Job

def event (job : Job) : ServiceEvent := .finish job.leader job.outcome

/-- It came to its end during a run of these events, while its leader was running it. -/
structure EndsIn (w : Workshop) (events : List ServiceEvent) (job : Job) : Prop where
  isPrefix : job.before ++ [job.event] <+: events
  running : (after w job.before).job? job.leader = some job.request

def met (w : Workshop) (job : Job) : Service := after w job.before

def left (w : Workshop) (job : Job) : Service := after w (job.before ++ [job.event])

theorem EndsIn.mono {w : Workshop} {events more : List ServiceEvent} {job : Job} (h : job.EndsIn w events)
    (further : events <+: more) : job.EndsIn w more :=
  ⟨h.isPrefix.trans further, h.running⟩

end Job

def EndedWith (s : Service) (id : Nat) (outcome : Outcome) : Prop :=
  ∃ c ∈ s.calls, c.id = id ∧ c.stage = .ended outcome

theorem call?_of_mem {s : Service} (ids : (s.calls.map Call.id).Nodup) {c : Call} (hc : c ∈ s.calls) :
    s.call? c.id = some c := by
  cases found : s.call? c.id with
  | none =>
    have absent := List.find?_eq_none.mp found c hc
    simp at absent
  | some d =>
    have same := List.inj_on_of_nodup_map ids (mem_of_call? found) hc (call?_id found)
    rw [same]

theorem endedWith_of_outcome? {s : Service} {id : Nat} {outcome : Outcome} (h : s.outcome? id = some outcome) :
    EndedWith s id outcome := by
  unfold outcome? at h
  split at h
  · rename_i call
    obtain rfl := Option.some.inj h
    exact ⟨_, mem_of_call? call, call?_id call, rfl⟩
  · cases h

theorem EndedWith.outcome? {s : Service} (ids : (s.calls.map Call.id).Nodup) {id : Nat} {outcome : Outcome}
    (h : EndedWith s id outcome) : s.outcome? id = some outcome := by
  obtain ⟨c, hc, rfl, stage⟩ := h
  have call := call?_of_mem ids hc
  obtain ⟨number, _, flag⟩ := c
  simp only at stage
  subst stage
  simp only [Service.outcome?, call]

theorem prefix_of_shorter {before later events : List ServiceEvent} {e : ServiceEvent} (h : before ++ [e] <+: events)
    (h' : later <+: events) (order : before.length < later.length) : before ++ [e] <+: later := by
  refine List.prefix_of_prefix_length_le h h' ?_
  rw [List.length_append, List.length_singleton]
  exact order

theorem settled_of_ne {leader : Nat} {outcome : Outcome} {c : Call} (other : c.id ≠ leader)
    (free : ∀ l, c.stage = .joined l → l ≠ leader) : settled leader outcome c = c := by
  unfold settled
  rw [if_neg other]
  split
  · rename_i l stage
    rw [if_neg (free l stage)]
  · rfl

theorem staged_of_ne {id : Nat} {stage : Stage} {c : Call} (other : c.id ≠ id) : staged id stage c = c := by
  rw [staged, if_neg other]

theorem eq_of_call? {s : Service} (ids : (s.calls.map Call.id).Nodup) {id : Nat} {c d : Call}
    (call : s.call? id = some d) (hc : c ∈ s.calls) (same : c.id = id) : c = d := by
  subst same
  exact Option.some.inj ((call?_of_mem ids hc).symm.trans call)

theorem EndedWith.step {s : Service} (ids : (s.calls.map Call.id).Nodup) {id : Nat} {outcome : Outcome}
    (h : EndedWith s id outcome) (e : ServiceEvent) : EndedWith (s.step e) id outcome := by
  obtain ⟨c, hc, hid, ended⟩ := h
  -- A call that a move gives a new stage had not ended, so it is another one.
  have apart : ∀ {number : Nat} {d : Call}, s.call? number = some d → d.stage ≠ .ended outcome → c.id ≠ number := by
    rintro number d call other same
    rw [eq_of_call? ids call hc same] at ended
    exact other ended
  have move := step_moves s e
  generalize s.step e = t at move
  cases move with
  | refused | found | joined | invalid | queued | led => exact ⟨c, List.mem_append_left _ hc, hid, ended⟩
  | idle => exact ⟨c, hc, hid, ended⟩
  | withdrawn call stage | returned call stage | finished call stage =>
    have other := apart call (by simp [stage])
    simp only [EndedWith, keep_beside, endLeader_calls, releasePermit_beside, dropTicket_beside]
    exact ⟨c, List.mem_map.mpr ⟨c, hc, settled_of_ne other (by simp [ended])⟩, hid, ended⟩
  | begun call stage | left call stage | told call stage =>
    have other := apart call (by simp [stage])
    simp only [EndedWith, setStage_calls, handIfFree_beside, dropTicket_beside]
    exact ⟨c, List.mem_map.mpr ⟨c, hc, staged_of_ne other⟩, hid, ended⟩
  | @cancelled number =>
    exact ⟨flagged number c, List.mem_map_of_mem hc, (flagged_id ..).trans hid, (flagged_stage ..).trans ended⟩

theorem EndedWith.after_append {w : Workshop} {events more : List ServiceEvent} (distinct : Distinct (events ++ more))
    {id : Nat} {outcome : Outcome} (h : EndedWith (after w events) id outcome) :
    EndedWith (after w (events ++ more)) id outcome := by
  induction more using List.reverseRecOn with
  | nil => simpa using h
  | append_singleton more e ih =>
    rw [← List.append_assoc] at distinct ⊢
    rw [after_concat]
    exact (ih distinct.of_append).step (ids_nodup distinct.of_append) e

theorem EndedWith.of_prefix {w : Workshop} {before events : List ServiceEvent} (distinct : Distinct events)
    (initial : before <+: events) {id : Nat} {outcome : Outcome} (h : EndedWith (after w before) id outcome) :
    EndedWith (after w events) id outcome := by
  obtain ⟨more, rfl⟩ := initial
  exact h.after_append distinct

theorem finish_of_running {s : Service} {id : Nat} {c : Call} {key : String} {r : Request} (outcome : Outcome)
    (call : s.call? id = some c) (stage : c.stage = .running key r) :
    s.step (.finish id outcome) = (s.releasePermit.endLeader id key outcome).keep key outcome := by
  obtain ⟨number, _, flag⟩ := c
  simp only at stage
  subst stage
  simp only [step, finish, call]

theorem job?_of_running {s : Service} {id : Nat} {c : Call} {key : String} {r : Request} (call : s.call? id = some c)
    (stage : c.stage = .running key r) : s.job? id = some r := by
  obtain ⟨number, _, flag⟩ := c
  simp only at stage
  subst stage
  simp only [job?, call]

theorem endedWith_of_finish {s : Service} {id : Nat} {r : Request} {outcome : Outcome} (job : s.job? id = some r) :
    EndedWith (s.step (.finish id outcome)) id outcome := by
  obtain ⟨c, key, call, stage⟩ := call?_of_job? job
  rw [finish_of_running outcome call stage, EndedWith]
  simp only [keep_beside, endLeader_calls, releasePermit_beside]
  refine ⟨_, List.mem_map_of_mem (mem_of_call? call), ?_, ?_⟩
  · rw [settled_id, call?_id call]
  · rw [settled, if_pos (call?_id call)]

namespace Job

theorem left_eq (w : Workshop) (job : Job) : job.left w = (job.met w).step job.event := after_concat ..

theorem EndsIn.endedWith {w : Workshop} {events : List ServiceEvent} {job : Job} (h : job.EndsIn w events) :
    EndedWith (job.left w) job.leader job.outcome := by
  rw [left_eq]
  exact endedWith_of_finish h.running

theorem EndsIn.mem_keysUnderWay {w : Workshop} {events : List ServiceEvent} {job : Job} (h : job.EndsIn w events)
    (distinct : Distinct events) : job.request.key ∈ (job.met w).keysUnderWay := by
  obtain ⟨c, key, call, stage⟩ := call?_of_job? h.running
  have coherent : Coherent (job.met w) :=
    coherent_after (Distinct.of_prefix distinct ((List.prefix_append _ _).trans h.isPrefix))
  have hled : led? c.stage = some (key, job.request) := by rw [stage]; rfl
  obtain ⟨rfl, -⟩ := coherent.led c (mem_of_call? call) key _ hled
  exact coherent.mem_keysUnderWay (mem_of_call? call) hled

theorem EndsIn.store_of_error {w : Workshop} {events : List ServiceEvent} {job : Job} (h : job.EndsIn w events)
    (distinct : Distinct events) {failure : Failure} (failed : job.outcome = .error failure) :
    (job.left w).store = (job.met w).store ∧ job.request.key ∉ (job.left w).store.keys := by
  have same : (job.left w).store = (job.met w).store := by
    obtain ⟨c, key, call, stage⟩ := call?_of_job? h.running
    rw [left_eq, event, failed, met, finish_of_running _ call stage, keep_store_error]
    simp
  have coherent : Coherent (job.met w) :=
    coherent_after (Distinct.of_prefix distinct ((List.prefix_append _ _).trans h.isPrefix))
  exact ⟨same, same ▸ coherent.unstored _ (h.mem_keysUnderWay distinct)⟩

theorem EndsIn.leader_ne {w : Workshop} {events : List ServiceEvent} {job later : Job} (h : job.EndsIn w events)
    (h' : later.EndsIn w events) (distinct : Distinct events) (order : job.before.length < later.before.length) :
    job.leader ≠ later.leader := by
  intro same
  have earlier : later.before <+: events := (List.prefix_append _ _).trans h'.isPrefix
  have initial := prefix_of_shorter h.isPrefix earlier order
  have known := distinct.of_prefix earlier
  obtain ⟨c, hc, hid, ended⟩ := EndedWith.of_prefix known initial h.endedWith
  obtain ⟨d, key, call, stage⟩ := call?_of_job? h'.running
  rw [eq_of_call? (ids_nodup known) call hc (hid.trans same), stage] at ended
  cases ended

/-- A leader has one job: after its end the leader runs nothing. -/
theorem EndsIn.eq_of_leader {w : Workshop} {events : List ServiceEvent} {job other : Job} (h : job.EndsIn w events)
    (h' : other.EndsIn w events) (distinct : Distinct events) (same : other.leader = job.leader) : other = job := by
  rcases Nat.lt_trichotomy other.before.length job.before.length with shorter | equal | longer
  · exact absurd same (h'.leader_ne h distinct shorter)
  · have heads := List.prefix_of_prefix_length_le h'.isPrefix h.isPrefix (by simp [equal])
    have whole := heads.eq_of_length (by simp [equal])
    obtain ⟨before, event⟩ := List.append_inj whole equal
    simp only [Job.event, List.cons.injEq, ServiceEvent.finish.injEq, and_true] at event
    have running := h'.running
    rw [before, event.1, h.running, Option.some.injEq] at running
    obtain ⟨_, _, _, _⟩ := job
    obtain ⟨_, _, _, _⟩ := other
    simp_all
  · exact absurd same.symm (h.leader_ne h' distinct longer)

end Job

end AsmScope.Service
