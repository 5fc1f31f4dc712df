import AsmScope.Proofs.Keyed
import AsmScope.Proofs.Service.SingleFlight

/-! Where the permits are. Each is free, or handed to a call that waits in the queue, or with a call that runs its
job, and none is lost or made on the way. The queue has one ticket for each call that waits, in the order of their
coming, so a permit that is handed always has a call to go to. -/

namespace AsmScope.Service

def isQueued : Stage → Bool
  | .queued _ _ => true
  | _ => false

def isRunning : Stage → Bool
  | .running _ _ => true
  | _ => false

def isHanded (t : Ticket) : Bool := t.state == .handed

def running (s : Service) : List Call := s.calls.filter fun c => isRunning c.stage

def queued (s : Service) : List Call := s.calls.filter fun c => isQueued c.stage

def handed (s : Service) : List Call := s.queued.filter fun c => (s.ticket? c.id).any isHanded

/-- The numbers of permits that are free or handed. -/
def spare (s : Service) : Nat := s.free + s.tickets.countP isHanded

/-- Permits are handed on, and some are gained; the queue keeps its order. -/
structure HandsOn (s t : Service) (gain : Nat) : Prop where
  order : t.tickets.map Ticket.call = s.tickets.map Ticket.call
  waiting : ∀ x ∈ t.tickets, x.state = .waiting → x ∈ s.tickets
  spare : t.spare = s.spare + gain

theorem handFirst_spec {tickets rest : List Ticket} (h : handFirst tickets = some rest) :
    rest.map Ticket.call = tickets.map Ticket.call ∧ (∀ x ∈ rest, x.state = .waiting → x ∈ tickets) ∧
      rest.countP isHanded = tickets.countP isHanded + 1 := by
  induction tickets generalizing rest with
  | nil => cases h
  | cons t tickets ih =>
    rw [handFirst] at h
    split at h
    · rename_i waiting
      obtain rfl := Option.some.inj h
      refine ⟨rfl, ?_, ?_⟩
      · intro x hx state
        rcases List.mem_cons.mp hx with rfl | hx
        · cases state
        · exact List.mem_cons_of_mem t hx
      · simp [isHanded, waiting]
    · obtain ⟨rest', next, rfl⟩ := Option.map_eq_some_iff.mp h
      obtain ⟨order, members, count⟩ := ih next
      refine ⟨by simp [order], ?_, ?_⟩
      · intro x hx state
        rcases List.mem_cons.mp hx with rfl | hx
        · exact List.mem_cons_self
        · exact List.mem_cons_of_mem t (members x hx state)
      · rw [List.countP_cons, List.countP_cons, count]
        omega

theorem handNext_handsOn {s : Service} (free : 0 < s.free) : HandsOn s s.handNext 0 := by
  unfold handNext
  split
  · rename_i tickets next
    obtain ⟨order, members, count⟩ := handFirst_spec next
    refine ⟨order, members, ?_⟩
    simp only [spare, count]
    omega
  · exact ⟨rfl, fun x hx _ => hx, rfl⟩

theorem releasePermit_handsOn (s : Service) : HandsOn s s.releasePermit 1 := by
  obtain ⟨order, waiting, spare⟩ := handNext_handsOn (s := { s with free := s.free + 1 }) (Nat.succ_pos _)
  refine ⟨order, waiting, ?_⟩
  rw [releasePermit, spare]
  simp only [Service.spare]
  omega

theorem handIfFree_handsOn (s : Service) : HandsOn s s.handIfFree 0 := by
  unfold handIfFree
  split
  · rename_i free
    exact handNext_handsOn free
  · exact ⟨rfl, fun x hx _ => hx, rfl⟩

theorem HandsOn.refl (s : Service) : HandsOn s s 0 := ⟨rfl, fun _ hx _ => hx, rfl⟩

structure Balanced (total : Nat) (s : Service) : Prop where
  queue : s.tickets.map Ticket.call = s.queued.map Call.id
  /-- A ticket of a call that is cancelled does not wait any more. -/
  going : ∀ t ∈ s.tickets, t.state = .waiting → ∀ c ∈ s.calls, c.id = t.call → c.isCancelled = false
  permits : s.spare + s.running.length = total

theorem running_length (s : Service) : s.running.length = s.calls.countP fun c => isRunning c.stage :=
  List.countP_eq_length_filter.symm

@[simp] theorem settled_isCancelled (leader : Nat) (outcome : Outcome) (c : Call) :
    (settled leader outcome c).isCancelled = c.isCancelled := by
  unfold settled
  split
  · rfl
  · split
    · split <;> rfl
    · rfl

@[simp] theorem staged_isCancelled (id : Nat) (stage : Stage) (c : Call) :
    (staged id stage c).isCancelled = c.isCancelled := by
  unfold staged
  split <;> rfl

theorem settled_self {leader : Nat} {outcome : Outcome} {c : Call} (own : c.id = leader) :
    settled leader outcome c = { c with stage := .ended outcome } := by
  rw [settled, if_pos own]

theorem staged_self {id : Nat} {stage : Stage} {c : Call} (own : c.id = id) :
    staged id stage c = { c with stage := stage } := by
  rw [staged, if_pos own]

theorem keep_permits (s : Service) (key : String) (outcome : Outcome) :
    (s.keep key outcome).tickets = s.tickets ∧ (s.keep key outcome).free = s.free := by
  unfold keep
  split
  · split <;> exact ⟨rfl, rfl⟩
  · exact ⟨rfl, rfl⟩

/-- A change after which every call but one is where it was, as far as permits go. -/
structure AffectsOnly (id : Nat) (f : Call → Call) : Prop where
  ids : ∀ c, (f c).id = c.id
  flags : ∀ c, (f c).isCancelled = c.isCancelled
  queued : ∀ c, c.id ≠ id → isQueued (f c).stage = isQueued c.stage
  running : ∀ c, c.id ≠ id → isRunning (f c).stage = isRunning c.stage

theorem affectsOnly_staged (id : Nat) (stage : Stage) : AffectsOnly id (staged id stage) where
  ids := staged_id id stage
  flags := staged_isCancelled id stage
  queued c other := by rw [staged, if_neg other]
  running c other := by rw [staged, if_neg other]

theorem affectsOnly_settled (leader : Nat) (outcome : Outcome) : AffectsOnly leader (settled leader outcome) where
  ids := settled_id leader outcome
  flags := settled_isCancelled leader outcome
  queued c other := by
    rw [settled, if_neg other]
    split
    · rename_i stage
      split
      · rw [stage]; rfl
      · rfl
    · rfl
  running c other := by
    rw [settled, if_neg other]
    split
    · rename_i stage
      split
      · rw [stage]; rfl
      · rfl
    · rfl

namespace AffectsOnly

theorem running_length {s t : Service} {id : Nat} {f : Call → Call} (h : AffectsOnly id f)
    (ids : (s.calls.map Call.id).Nodup) {c : Call} (call : s.call? id = some c) (calls : t.calls = s.calls.map f) :
    t.running.length + (isRunning c.stage).toNat = s.running.length + (isRunning (f c).stage).toNat := by
  obtain rfl := call?_id call
  rw [Service.running_length, Service.running_length, calls]
  exact countP_map_of_others (p := fun c => isRunning c.stage) ids (mem_of_call? call) fun d _ other => h.running d other

theorem queued_ids {s t : Service} {id : Nat} {f : Call → Call} (h : AffectsOnly id f)
    (ids : (s.calls.map Call.id).Nodup) {c : Call} (call : s.call? id = some c)
    (same : isQueued (f c).stage = isQueued c.stage) (calls : t.calls = s.calls.map f) :
    t.queued.map Call.id = s.queued.map Call.id := by
  have stages : ∀ d ∈ s.calls, isQueued (f d).stage = isQueued d.stage := by
    intro d hd
    by_cases hid : d.id = id
    · obtain rfl := List.inj_on_of_nodup_map ids hd (mem_of_call? call) (hid.trans (call?_id call).symm)
      exact same
    · exact h.queued d hid
  rw [Service.queued, Service.queued, calls, List.filter_map, List.map_map, List.filter_congr (p := _ ∘ f) stages]
  exact List.map_congr_left fun d _ => h.ids d

theorem queued_ids_of_left {s t : Service} {id : Nat} {f : Call → Call} (h : AffectsOnly id f)
    (ids : (s.calls.map Call.id).Nodup) {c : Call} (call : s.call? id = some c)
    (left : isQueued (f c).stage = false) (calls : t.calls = s.calls.map f) :
    t.queued.map Call.id = (s.queued.map Call.id).filter (· ≠ id) := by
  have stages : ∀ d ∈ s.calls, isQueued (f d).stage = (decide (d.id ≠ id) && isQueued d.stage) := by
    intro d hd
    by_cases hid : d.id = id
    · obtain rfl := List.inj_on_of_nodup_map ids hd (mem_of_call? call) (hid.trans (call?_id call).symm)
      simp [left, hid]
    · simp [h.queued d hid, hid]
  rw [Service.queued, Service.queued, calls, List.filter_map, List.map_map, List.filter_congr (p := _ ∘ f) stages,
    List.filter_map, List.filter_filter]
  exact List.map_congr_left fun d _ => h.ids d

end AffectsOnly

@[simp] theorem withdraw_call (id : Nat) (t : Ticket) : (withdraw id t).call = t.call := by
  unfold withdraw
  split <;> rfl

theorem waiting_of_withdraw {id : Nat} {t : Ticket} (h : (withdraw id t).state = .waiting) :
    t.state = .waiting ∧ t.call ≠ id := by
  unfold withdraw at h
  split at h
  · cases h
  · rename_i kept
    exact ⟨h, fun same => kept ⟨same, h⟩⟩

theorem isHanded_withdraw (id : Nat) (t : Ticket) : isHanded (withdraw id t) = isHanded t := by
  unfold withdraw
  split
  · rename_i waiting
    simp [isHanded, waiting.2]
  · rfl

namespace Balanced

theorem start (w : Workshop) : Balanced w.config.limits.jobs (start w) := by
  constructor <;> simp [Service.start, queued, running, spare]

theorem of_eq {total : Nat} {s t : Service} (h : Balanced total s) (calls : t.calls = s.calls)
    (tickets : t.tickets = s.tickets) (free : t.free = s.free) : Balanced total t where
  queue := by rw [tickets, queued, calls]; exact h.queue
  going := by rw [tickets, calls]; exact h.going
  permits := by rw [spare, running, tickets, free, calls]; exact h.permits

theorem tickets_nodup {total : Nat} {s : Service} (h : Balanced total s) (ids : (s.calls.map Call.id).Nodup) :
    (s.tickets.map Ticket.call).Nodup := by
  rw [h.queue]
  exact ids.sublist (List.filter_sublist.map _)

theorem ticket?_spec {s : Service} {id : Nat} {t : Ticket} (ticket : s.ticket? id = some t) :
    t ∈ s.tickets ∧ t.call = id :=
  ⟨List.mem_of_find?_eq_some ticket, by simpa using List.find?_some ticket⟩

theorem addCall {total : Nat} {s t : Service} (h : Balanced total s) {c : Call} (unqueued : isQueued c.stage = false)
    (idle : isRunning c.stage = false) (going : c.isCancelled = false) (calls : t.calls = s.calls ++ [c])
    (tickets : t.tickets = s.tickets) (free : t.free = s.free) : Balanced total t where
  queue := by
    rw [queued, tickets, calls, List.filter_append, List.filter_cons_of_neg (by simp [unqueued]), List.filter_nil,
      List.append_nil]
    exact h.queue
  going x hx waiting d hd same := by
    rw [tickets] at hx
    rw [calls, List.mem_append, List.mem_singleton] at hd
    rcases hd with hd | rfl
    · exact h.going x hx waiting d hd same
    · exact going
  permits := by
    rw [spare, running, tickets, free, calls, List.filter_append, List.filter_cons_of_neg (by simp [idle]),
      List.filter_nil, List.append_nil]
    exact h.permits

theorem enqueue {total : Nat} {s t : Service} (h : Balanced total s) {c : Call} (inQueue : isQueued c.stage = true)
    (idle : isRunning c.stage = false) (going : c.isCancelled = false) (new : ∀ d ∈ s.calls, d.id ≠ c.id)
    (calls : t.calls = s.calls ++ [c]) (tickets : t.tickets = s.tickets ++ [⟨c.id, .waiting⟩])
    (free : t.free = s.free) : Balanced total t where
  queue := by
    rw [queued, tickets, calls, List.filter_append, List.filter_cons_of_pos (by simp [inQueue]), List.filter_nil,
      List.map_append, List.map_append, h.queue]
    rfl
  going x hx waiting d hd same := by
    rw [tickets, List.mem_append, List.mem_singleton] at hx
    rw [calls, List.mem_append, List.mem_singleton] at hd
    rcases hd with hd | rfl
    · rcases hx with hx | rfl
      · exact h.going x hx waiting d hd same
      · exact absurd same (new d hd)
    · exact going
  permits := by
    rw [spare, running, tickets, free, calls, List.filter_append, List.filter_cons_of_neg (by simp [idle]),
      List.filter_nil, List.append_nil, List.countP_append]
    exact h.permits

theorem leadAtOnce {total : Nat} {s t : Service} (h : Balanced total s) {c : Call} (unqueued : isQueued c.stage = false)
    (runs : isRunning c.stage = true) (going : c.isCancelled = false) (calls : t.calls = s.calls ++ [c])
    (tickets : t.tickets = s.tickets) (free : t.free + 1 = s.free) : Balanced total t where
  queue := by
    rw [queued, tickets, calls, List.filter_append, List.filter_cons_of_neg (by simp [unqueued]), List.filter_nil,
      List.append_nil]
    exact h.queue
  going x hx waiting d hd same := by
    rw [tickets] at hx
    rw [calls, List.mem_append, List.mem_singleton] at hd
    rcases hd with hd | rfl
    · exact h.going x hx waiting d hd same
    · exact going
  permits := by
    have permits := h.permits
    rw [spare, running] at permits ⊢
    rw [tickets, calls, List.filter_append, List.filter_cons_of_pos (by simp [runs]), List.filter_nil,
      List.length_append, List.length_singleton]
    omega

theorem change {total : Nat} {s u t : Service} (h : Balanced total s) (ids : (s.calls.map Call.id).Nodup) {id gain : Nat}
    {f : Call → Call} (only : AffectsOnly id f) {c : Call} (call : s.call? id = some c) (hands : HandsOn s u gain)
    (calls : t.calls = s.calls.map f) (tickets : t.tickets = u.tickets) (free : t.free = u.free)
    (unqueued : isQueued c.stage = false) (stays : isQueued (f c).stage = false)
    (paid : gain + (isRunning (f c).stage).toNat = (isRunning c.stage).toNat) : Balanced total t where
  queue := by
    rw [tickets, hands.order, h.queue, only.queued_ids ids call (stays.trans unqueued.symm) calls]
  going x hx waiting d hd same := by
    rw [tickets] at hx
    rw [calls] at hd
    obtain ⟨c', hc', rfl⟩ := List.mem_map.mp hd
    rw [only.flags]
    exact h.going x (hands.waiting x hx waiting) waiting c' hc' ((only.ids c').symm.trans same)
  permits := by
    have before := h.permits
    have runs := only.running_length ids call calls
    have gained := hands.spare
    have same : t.spare = u.spare := by rw [spare, spare, tickets, free]
    omega

theorem leaveQueue {total : Nat} {s u t : Service} (h : Balanced total s) (ids : (s.calls.map Call.id).Nodup)
    {id gain : Nat} {f : Call → Call} (only : AffectsOnly id f) {c : Call} {x : Ticket} (call : s.call? id = some c)
    (ticket : s.ticket? id = some x) (hands : HandsOn (s.dropTicket id) u gain) (calls : t.calls = s.calls.map f)
    (tickets : t.tickets = u.tickets) (free : t.free = u.free) (idle : isRunning c.stage = false)
    (left : isQueued (f c).stage = false) (paid : gain + (isRunning (f c).stage).toNat = (isHanded x).toNat) :
    Balanced total t where
  queue := by
    rw [tickets, hands.order, dropTicket, only.queued_ids_of_left ids call left calls, ← h.queue, List.filter_map]
    rfl
  going y hy waiting d hd same := by
    rw [tickets] at hy
    rw [calls] at hd
    obtain ⟨c', hc', rfl⟩ := List.mem_map.mp hd
    rw [only.flags]
    have older := (List.mem_filter.mp (hands.waiting y hy waiting)).1
    exact h.going y older waiting c' hc' ((only.ids c').symm.trans same)
  permits := by
    have before := h.permits
    have runs := only.running_length ids call calls
    have gained := hands.spare
    have same : t.spare = u.spare := by rw [spare, spare, tickets, free]
    have dropped : s.spare = (s.dropTicket id).spare + (isHanded x).toNat := by
      obtain ⟨hx, rfl⟩ := ticket?_spec ticket
      rw [spare, countP_eq_others isHanded (h.tickets_nodup ids) hx]
      simp only [spare, dropTicket]
      omega
    rw [idle, Bool.toNat_false] at runs
    omega

theorem cancel {total : Nat} {s : Service} (h : Balanced total s) (id : Nat) : Balanced total (s.cancel id) where
  queue := by
    have order : (s.cancel id).tickets.map Ticket.call = s.tickets.map Ticket.call := by
      rw [Service.cancel, List.map_map]
      exact List.map_congr_left fun x _ => withdraw_call id x
    have same : (s.cancel id).queued.map Call.id = s.queued.map Call.id := by
      simp only [queued, cancel_calls, List.filter_map, List.map_map, Function.comp_def, flagged_id, flagged_stage]
    rw [order, same, h.queue]
  going x hx waiting d hd same := by
    rw [cancel_calls] at hd
    obtain ⟨y, hy, rfl⟩ := List.mem_map.mp hx
    obtain ⟨c, hc, rfl⟩ := List.mem_map.mp hd
    obtain ⟨waited, other⟩ := waiting_of_withdraw waiting
    rw [flagged_id, withdraw_call] at same
    rw [flagged, if_neg fun both => other (same.symm.trans both.1)]
    exact h.going y hy waited c hc same
  permits := by
    have before := h.permits
    have handed : (s.cancel id).tickets.countP isHanded = s.tickets.countP isHanded := by
      rw [Service.cancel, List.countP_map]
      exact List.countP_congr fun x _ => by simp [isHanded_withdraw]
    have runs : (s.cancel id).running.length = s.running.length := by
      rw [running_length, running_length, cancel_calls, List.countP_map]
      exact List.countP_congr fun c _ => by simp
    rw [spare, handed, runs]
    exact before

theorem step {total : Nat} {s : Service} (h : Balanced total s) (ids : (s.calls.map Call.id).Nodup) (e : ServiceEvent)
    (new : ∀ id, submitted? e = some id → ∀ c ∈ s.calls, c.id ≠ id) : Balanced total (s.step e) := by
  have move := step_moves s e
  generalize s.step e = t at move
  cases move with
  | refused | found | joined | invalid => exact h.addCall rfl rfl rfl rfl rfl rfl
  | queued => exact h.enqueue rfl rfl rfl (new _ rfl) rfl rfl rfl
  | led admissible unstored notUnderWay valid unlocked =>
    have free : s.free ≠ 0 := by
      rintro none
      simp [isLocked, none] at unlocked
    exact h.leadAtOnce rfl rfl rfl rfl rfl (Nat.succ_pred_eq_of_ne_zero free)
  | idle => exact h
  | @withdrawn id c key r x call stage ticket cancelled empty =>
    refine h.leaveQueue ids (affectsOnly_settled id (.error .cancelled)) call ticket (.refl _) (by simp) rfl rfl
      (by rw [stage]; rfl) ?_ ?_
    · rw [settled_self (call?_id call)]; rfl
    · rw [settled_self (call?_id call), isHanded, empty]; rfl
  | @returned id c key r x call stage ticket cancelled permit =>
    have handed : isHanded x = true := by
      obtain ⟨hx, own⟩ := ticket?_spec ticket
      cases state : x.state with
      | waiting =>
        have going := h.going x hx state c (mem_of_call? call) ((call?_id call).trans own.symm)
        rw [going] at cancelled
        cases cancelled
      | handed => simp [isHanded, state]
      | withdrawn => exact absurd state permit
    refine h.leaveQueue ids (affectsOnly_settled id (.error .cancelled)) call ticket (releasePermit_handsOn _)
      (by simp) rfl rfl (by rw [stage]; rfl) ?_ ?_
    · rw [settled_self (call?_id call)]; rfl
    · rw [settled_self (call?_id call), handed]; rfl
  | @begun id c key r x call stage ticket going permit =>
    refine h.leaveQueue ids (affectsOnly_staged id (.running key r)) call ticket (handIfFree_handsOn _)
      (by simp) rfl rfl (by rw [stage]; rfl) ?_ ?_
    · rw [staged_self (call?_id call)]; rfl
    · rw [staged_self (call?_id call), isHanded, permit]; rfl
  | @left id c leader call stage cancelled =>
    refine h.change ids (affectsOnly_staged id (.ended (.error .cancelled))) call (.refl s) rfl rfl rfl
      (by rw [stage]; rfl) ?_ ?_
    · rw [staged_self (call?_id call)]; rfl
    · rw [staged_self (call?_id call), stage]; rfl
  | @told id c outcome call stage =>
    refine h.change ids (affectsOnly_staged id _) call (.refl s) rfl rfl rfl (by rw [stage]; rfl) ?_ ?_
    · rw [staged_self (call?_id call)]; rfl
    · rw [staged_self (call?_id call), stage]; rfl
  | @finished id c key r outcome call stage =>
    refine h.change ids (affectsOnly_settled id outcome) call (releasePermit_handsOn s) (by simp)
      (keep_permits ..).1 (keep_permits ..).2 (by rw [stage]; rfl) ?_ ?_
    · rw [settled_self (call?_id call)]; rfl
    · rw [settled_self (call?_id call), stage]; rfl
  | cancelled => exact h.cancel _

theorem ticket?_of_mem {total : Nat} {s : Service} (h : Balanced total s) (ids : (s.calls.map Call.id).Nodup)
    {x : Ticket} (hx : x ∈ s.tickets) : s.ticket? x.call = some x := by
  cases found : s.ticket? x.call with
  | none =>
    have absent := List.find?_eq_none.mp found x hx
    simp at absent
  | some y =>
    obtain ⟨hy, same⟩ := ticket?_spec found
    rw [List.inj_on_of_nodup_map (h.tickets_nodup ids) hy hx same]

theorem handed_length {total : Nat} {s : Service} (h : Balanced total s) (ids : (s.calls.map Call.id).Nodup) :
    s.handed.length = s.tickets.countP isHanded := by
  calc s.handed.length
      = s.queued.countP fun c => (s.ticket? c.id).any isHanded := List.countP_eq_length_filter.symm
    _ = (s.queued.map Call.id).countP fun id => (s.ticket? id).any isHanded := by
      rw [List.countP_map]
      rfl
    _ = s.tickets.countP fun x => (s.ticket? x.call).any isHanded := by rw [← h.queue, List.countP_map]; rfl
    _ = s.tickets.countP isHanded := by
      refine List.countP_congr fun x hx => ?_
      rw [h.ticket?_of_mem ids hx, Option.any_some]

end Balanced

end AsmScope.Service
