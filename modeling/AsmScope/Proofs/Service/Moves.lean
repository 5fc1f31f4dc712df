import AsmScope.Proofs.Compile.Store
import AsmScope.Service.Basic

/-! What one event can do to a service. Every change is one of the moves below, each with all that holds when it
is made; the theory of runs rests on this list and never looks into the steps again. Permits change beside the
calls: handing them on touches nothing else. -/

namespace AsmScope.Service

def led? : Stage → Option (String × Request)
  | .queued key r => some (key, r)
  | .running key r => some (key, r)
  | _ => none

def submitted? : ServiceEvent → Option Nat
  | .submit id _ => some id
  | _ => none

def settled (leader : Nat) (outcome : Outcome) (c : Call) : Call :=
  if c.id = leader then { c with stage := .ended outcome }
  else match c.stage with
    | .joined l => if l = leader then { c with stage := .answered outcome } else c
    | _ => c

def staged (id : Nat) (stage : Stage) (c : Call) : Call := if c.id = id then { c with stage := stage } else c

def flagged (id : Nat) (c : Call) : Call :=
  if c.id = id ∧ isEnded c.stage = false then { c with isCancelled := true } else c

@[simp] theorem settled_id (leader : Nat) (outcome : Outcome) (c : Call) :
    (settled leader outcome c).id = c.id := by
  unfold settled
  split
  · rfl
  · split
    · split <;> rfl
    · rfl

@[simp] theorem staged_id (id : Nat) (stage : Stage) (c : Call) : (staged id stage c).id = c.id := by
  unfold staged
  split <;> rfl

@[simp] theorem flagged_id (id : Nat) (c : Call) : (flagged id c).id = c.id := by
  unfold flagged
  split <;> rfl

@[simp] theorem flagged_stage (id : Nat) (c : Call) : (flagged id c).stage = c.stage := by
  unfold flagged
  split <;> rfl

/-- Another permit may be free when a ticket has been taken up; then the next ticket is handed. -/
def handIfFree (s : Service) : Service := if 0 < s.free then s.handNext else s

@[simp] theorem setStage_calls (s : Service) (id : Nat) (stage : Stage) :
    (s.setStage id stage).calls = s.calls.map (staged id stage) := rfl

@[simp] theorem cancel_calls (s : Service) (id : Nat) : (s.cancel id).calls = s.calls.map (flagged id) := rfl

@[simp] theorem handNext_beside (s : Service) :
    s.handNext.workshop = s.workshop ∧ s.handNext.store = s.store ∧ s.handNext.inFlight = s.inFlight ∧
      s.handNext.calls = s.calls := by
  unfold handNext
  split <;> exact ⟨rfl, rfl, rfl, rfl⟩

@[simp] theorem releasePermit_beside (s : Service) :
    s.releasePermit.workshop = s.workshop ∧ s.releasePermit.store = s.store ∧
      s.releasePermit.inFlight = s.inFlight ∧ s.releasePermit.calls = s.calls :=
  handNext_beside { s with free := s.free + 1 }

@[simp] theorem handIfFree_beside (s : Service) :
    s.handIfFree.workshop = s.workshop ∧ s.handIfFree.store = s.store ∧ s.handIfFree.inFlight = s.inFlight ∧
      s.handIfFree.calls = s.calls := by
  unfold handIfFree
  split
  · exact handNext_beside s
  · exact ⟨rfl, rfl, rfl, rfl⟩

@[simp] theorem dropTicket_beside (s : Service) (id : Nat) :
    (s.dropTicket id).workshop = s.workshop ∧ (s.dropTicket id).store = s.store ∧
      (s.dropTicket id).inFlight = s.inFlight ∧ (s.dropTicket id).calls = s.calls := ⟨rfl, rfl, rfl, rfl⟩

@[simp] theorem endLeader_beside (s : Service) (id : Nat) (key : String) (outcome : Outcome) :
    (s.endLeader id key outcome).workshop = s.workshop ∧ (s.endLeader id key outcome).store = s.store ∧
      (s.endLeader id key outcome).inFlight = s.inFlight.filter fun entry => entry.1 ≠ key := ⟨rfl, rfl, rfl⟩

@[simp] theorem endLeader_calls (s : Service) (id : Nat) (key : String) (outcome : Outcome) :
    (s.endLeader id key outcome).calls = s.calls.map (settled id outcome) := by
  simp only [endLeader, setStage, answerJoined, forget, List.map_map]
  refine List.map_congr_left fun c _ => ?_
  simp only [Function.comp_apply, settled]
  cases hs : c.stage with
  | joined l =>
    by_cases hl : l = id <;> by_cases hc : c.id = id <;> simp [hl, hc]
  | _ => by_cases hc : c.id = id <;> simp [hc]

@[simp] theorem keep_beside (s : Service) (key : String) (outcome : Outcome) :
    (s.keep key outcome).workshop = s.workshop ∧ (s.keep key outcome).inFlight = s.inFlight ∧
      (s.keep key outcome).calls = s.calls := by
  unfold keep
  split
  · split <;> exact ⟨rfl, rfl, rfl⟩
  · exact ⟨rfl, rfl, rfl⟩

theorem keep_store_error (s : Service) (key : String) (e : Failure) : (s.keep key (.error e)).store = s.store := rfl

theorem mem_entries_of_mem_keep {s : Service} {key : String} {outcome : Outcome} {e : Stored}
    (h : e ∈ (s.keep key outcome).store.entries) :
    e ∈ s.store.entries ∨ e.key = key ∧ outcome = .ok e.result ∧ e.result.okToCache = true := by
  unfold keep at h
  split at h
  · split at h
    · rename_i kept
      rcases Store.mem_entries_of_mem_put h with h | rfl
      · exact .inl h
      · exact .inr ⟨rfl, rfl, kept⟩
    · exact .inl h
  · exact .inl h

/-- Everything that an event can do. The first six are the ways of a new call: it is refused, it finds a stored
result, it joins a job, its request is not valid, or it leads a job from the queue or at once. -/
inductive Moves (s : Service) : ServiceEvent → Service → Prop where
  | refused {id : Nat} {r : Request} {e : Failure} (inadmissible : s.admissible r = .error e) :
      Moves s (.submit id r) (s.addCall id (.ended (.error e)))
  | found {id : Nat} {r r' : Request} {e : Stored} (admissible : s.admissible r = .ok r')
      (stored : s.store.find? r'.key = some e) :
      Moves s (.submit id r) (addCall { s with store := (s.store.get r'.key).2 } id (.ended (.ok e.result)))
  | joined {id : Nat} {r r' : Request} {leader : Nat} (admissible : s.admissible r = .ok r')
      (unstored : s.store.find? r'.key = none) (underWay : s.leader? r'.key = some leader) :
      Moves s (.submit id r) (s.addCall id (.joined leader))
  | invalid {id : Nat} {r r' : Request} {e : Failure} (admissible : s.admissible r = .ok r')
      (unstored : s.store.find? r'.key = none) (notUnderWay : s.leader? r'.key = none)
      (bad : s.workshop.validate r' = .error e) :
      Moves s (.submit id r) (s.addCall id (.ended (.error e)))
  | queued {id : Nat} {r r' : Request} (admissible : s.admissible r = .ok r')
      (unstored : s.store.find? r'.key = none) (notUnderWay : s.leader? r'.key = none)
      (valid : s.workshop.validate r' = .ok ()) (locked : s.isLocked = true) :
      Moves s (.submit id r) (((s.enter r'.key id).enqueue id).addCall id (.queued r'.key r'))
  | led {id : Nat} {r r' : Request} (admissible : s.admissible r = .ok r')
      (unstored : s.store.find? r'.key = none) (notUnderWay : s.leader? r'.key = none)
      (valid : s.workshop.validate r' = .ok ()) (unlocked : s.isLocked = false) :
      Moves s (.submit id r) ((s.enter r'.key id).takePermit.addCall id (.running r'.key r'))
  | idle {e : ServiceEvent} (known : submitted? e = none) : Moves s e s
  | withdrawn {id : Nat} {c : Call} {key : String} {r : Request} {t : Ticket} (call : s.call? id = some c)
      (stage : c.stage = .queued key r) (ticket : s.ticket? id = some t) (cancelled : c.isCancelled = true)
      (empty : t.state = .withdrawn) :
      Moves s (.resume id) ((s.dropTicket id).endLeader id key (.error .cancelled))
  | returned {id : Nat} {c : Call} {key : String} {r : Request} {t : Ticket} (call : s.call? id = some c)
      (stage : c.stage = .queued key r) (ticket : s.ticket? id = some t) (cancelled : c.isCancelled = true)
      (permit : t.state ≠ .withdrawn) :
      Moves s (.resume id) ((s.dropTicket id).releasePermit.endLeader id key (.error .cancelled))
  | begun {id : Nat} {c : Call} {key : String} {r : Request} {t : Ticket} (call : s.call? id = some c)
      (stage : c.stage = .queued key r) (ticket : s.ticket? id = some t) (going : c.isCancelled = false)
      (permit : t.state = .handed) :
      Moves s (.resume id) ((s.dropTicket id).handIfFree.setStage id (.running key r))
  | left {id : Nat} {c : Call} {leader : Nat} (call : s.call? id = some c) (stage : c.stage = .joined leader)
      (cancelled : c.isCancelled = true) : Moves s (.resume id) (s.setStage id (.ended (.error .cancelled)))
  | told {id : Nat} {c : Call} {outcome : Outcome} (call : s.call? id = some c)
      (stage : c.stage = .answered outcome) :
      Moves s (.resume id) (s.setStage id (.ended (if c.isCancelled then .error .cancelled else outcome)))
  | finished {id : Nat} {c : Call} {key : String} {r : Request} {outcome : Outcome} (call : s.call? id = some c)
      (stage : c.stage = .running key r) :
      Moves s (.finish id outcome) ((s.releasePermit.endLeader id key outcome).keep key outcome)
  | cancelled {id : Nat} : Moves s (.cancel id) (s.cancel id)

theorem submit_moves (s : Service) (id : Nat) (r : Request) : Moves s (.submit id r) (s.submit id r) := by
  unfold submit
  cases admissible : s.admissible r with
  | error e => exact .refused admissible
  | ok r' =>
    simp only
    cases stored : s.store.find? r'.key with
    | some e =>
      have got := Store.get_of_find? stored
      have move : Moves s (.submit id r) _ := .found admissible stored
      simpa only [got] using move
    | none =>
      simp only [Store.get_of_find?_none stored]
      cases underWay : s.leader? r'.key with
      | some leader => exact .joined admissible stored underWay
      | none =>
        simp only
        cases valid : s.workshop.validate r' with
        | error e => exact .invalid admissible stored underWay valid
        | ok =>
          simp only [lead]
          split
          · rename_i locked
            exact .queued admissible stored underWay valid locked
          · rename_i unlocked
            exact .led admissible stored underWay valid ((Bool.not_eq_true _).mp unlocked)

theorem call?_id {s : Service} {id : Nat} {c : Call} (h : s.call? id = some c) : c.id = id := by
  simpa using List.find?_some h

theorem mem_of_call? {s : Service} {id : Nat} {c : Call} (h : s.call? id = some c) : c ∈ s.calls :=
  List.mem_of_find?_eq_some h

theorem resume_moves (s : Service) (id : Nat) : Moves s (.resume id) (s.resume id) := by
  unfold resume
  cases call : s.call? id with
  | none => exact .idle rfl
  | some c =>
    obtain rfl := call?_id call
    simp only
    cases stage : c.stage with
    | queued key r =>
      simp only [resumeQueued]
      cases ticket : s.ticket? c.id with
      | none => exact .idle rfl
      | some t =>
        simp only
        split
        · rename_i cancelled
          split
          · rename_i empty
            exact .withdrawn call stage ticket cancelled empty
          · rename_i permit
            exact .returned call stage ticket cancelled permit
        · rename_i going
          split
          · rename_i permit
            exact .begun call stage ticket (by simpa using going) permit
          · exact .idle rfl
    | joined leader =>
      simp only
      split
      · rename_i cancelled
        exact .left call stage cancelled
      · exact .idle rfl
    | answered outcome => exact .told call stage
    | running key r => exact .idle rfl
    | ended outcome => exact .idle rfl

theorem finish_moves (s : Service) (id : Nat) (outcome : Outcome) :
    Moves s (.finish id outcome) (s.finish id outcome) := by
  unfold finish
  split
  · rename_i call
    exact .finished call rfl
  · exact .idle rfl

theorem step_moves (s : Service) (e : ServiceEvent) : Moves s e (s.step e) := by
  cases e with
  | submit id r => exact submit_moves s id r
  | resume id => exact resume_moves s id
  | finish id outcome => exact finish_moves s id outcome
  | cancel id => exact .cancelled

end AsmScope.Service
