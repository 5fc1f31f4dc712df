import AsmScope.Compile.Store
import AsmScope.Job.Compile

/-! Serving many requests. Equal requests share one job: a stored result answers at once, and a request whose
job is under way waits for it. A job that is to start takes a permit, or a ticket in a queue if none is free.
All changes happen in steps between which calls wait, and every step is one of the events below. What a job
does is no concern of the service: it only learns the outcome. -/

namespace AsmScope

inductive TicketState where
  | waiting
  | handed
  | withdrawn
  deriving DecidableEq, Repr

/-- A place in the queue for permits. A handed ticket holds a permit that its call has not taken up yet. -/
structure Ticket where
  call : Nat
  state : TicketState
  deriving DecidableEq, Repr

abbrev Outcome := Except Failure Result

/-- How far a call is: it leads a job that is queued or running, it waits for another call's job, it has been
answered by that job, or it has ended. -/
inductive Stage where
  | queued (key : String) (request : Request)
  | running (key : String) (request : Request)
  | joined (leader : Nat)
  | answered (outcome : Outcome)
  | ended (outcome : Outcome)

structure Call where
  id : Nat
  stage : Stage
  isCancelled : Bool

structure Service where
  workshop : Workshop
  store : Store
  /-- The keys of jobs under way, with the calls that lead them. -/
  inFlight : List (String × Nat)
  free : Nat
  tickets : List Ticket
  calls : List Call

inductive ServiceEvent where
  | submit (id : Nat) (request : Request)
  | resume (id : Nat)
  | finish (id : Nat) (outcome : Outcome)
  | cancel (id : Nat)

namespace Service

def start (w : Workshop) : Service :=
  ⟨w, .empty w.config.limits.cacheBytes, [], w.config.limits.jobs, [], []⟩

def call? (s : Service) (id : Nat) : Option Call := s.calls.find? fun c => c.id = id

def leader? (s : Service) (key : String) : Option Nat := s.inFlight.lookup key

def addCall (s : Service) (id : Nat) (stage : Stage) : Service :=
  { s with calls := s.calls ++ [⟨id, stage, false⟩] }

def setStage (s : Service) (id : Nat) (stage : Stage) : Service :=
  { s with calls := s.calls.map fun c => if c.id = id then { c with stage := stage } else c }

/-- A permit is not free for a newcomer as long as anybody waits for one or has just been handed one. -/
def isLocked (s : Service) : Bool := s.free == 0 || s.tickets.any fun t => t.state != .withdrawn

def handFirst : List Ticket → Option (List Ticket)
  | [] => none
  | t :: rest =>
    match t.state with
    | .waiting => some ({ t with state := .handed } :: rest)
    | _ => (handFirst rest).map (t :: ·)

def handNext (s : Service) : Service :=
  match handFirst s.tickets with
  | some tickets => { s with tickets := tickets, free := s.free - 1 }
  | none => s

def releasePermit (s : Service) : Service := handNext { s with free := s.free + 1 }

def dropTicket (s : Service) (id : Nat) : Service :=
  { s with tickets := s.tickets.filter fun t => t.call ≠ id }

def answerJoined (s : Service) (leader : Nat) (outcome : Outcome) : Service :=
  { s with calls := s.calls.map fun c =>
      match c.stage with
      | .joined l => if l = leader then { c with stage := .answered outcome } else c
      | _ => c }

def forget (s : Service) (key : String) : Service :=
  { s with inFlight := s.inFlight.filter fun entry => entry.1 ≠ key }

def endLeader (s : Service) (id : Nat) (key : String) (outcome : Outcome) : Service :=
  ((s.forget key).answerJoined id outcome).setStage id (.ended outcome)

def keep (s : Service) (key : String) (outcome : Outcome) : Service :=
  match outcome with
  | .ok result => if result.okToCache then { s with store := (s.store.put key result).2 } else s
  | .error _ => s

def admissible (s : Service) (r : Request) : Except Failure Request := do
  let entry ← s.workshop.registry.lookup r.compiler
  if entry.settings.isRemote then .error (.remoteOnly entry.settings.id)
  else s.workshop.normalize r

def enter (s : Service) (key : String) (id : Nat) : Service :=
  { s with inFlight := s.inFlight ++ [(key, id)] }

def enqueue (s : Service) (id : Nat) : Service := { s with tickets := s.tickets ++ [⟨id, .waiting⟩] }

def takePermit (s : Service) : Service := { s with free := s.free - 1 }

def lead (s : Service) (id : Nat) (key : String) (r : Request) : Service :=
  let s := s.enter key id
  if s.isLocked then (s.enqueue id).addCall id (.queued key r) else s.takePermit.addCall id (.running key r)

def submit (s : Service) (id : Nat) (r : Request) : Service :=
  match s.admissible r with
  | .error e => s.addCall id (.ended (.error e))
  | .ok r =>
    let key := r.key
    match s.store.get key with
    | (some result, store) => addCall { s with store := store } id (.ended (.ok result))
    | (none, _) =>
      match s.leader? key with
      | some leader => s.addCall id (.joined leader)
      | none =>
        match s.workshop.validate r with
        | .error e => s.addCall id (.ended (.error e))
        | .ok () => s.lead id key r

def ticket? (s : Service) (id : Nat) : Option Ticket := s.tickets.find? fun t => t.call = id

/-- A queued call goes on: with the permit it was handed, or to its end if it is cancelled. A cancelled call
gives back a permit that it was handed. -/
def resumeQueued (s : Service) (c : Call) (key : String) (r : Request) : Service :=
  match s.ticket? c.id with
  | none => s
  | some t =>
    let rest := s.dropTicket c.id
    if c.isCancelled then
      (if t.state = .withdrawn then rest else rest.releasePermit).endLeader c.id key (.error .cancelled)
    else if t.state = .handed then
      (if 0 < rest.free then rest.handNext else rest).setStage c.id (.running key r)
    else s

def resume (s : Service) (id : Nat) : Service :=
  match s.call? id with
  | none => s
  | some c =>
    match c.stage with
    | .queued key r => s.resumeQueued c key r
    | .joined _ => if c.isCancelled then s.setStage id (.ended (.error .cancelled)) else s
    | .answered outcome => s.setStage id (.ended (if c.isCancelled then .error .cancelled else outcome))
    | _ => s

def finish (s : Service) (id : Nat) (outcome : Outcome) : Service :=
  match s.call? id with
  | some ⟨_, .running key _, _⟩ => ((s.releasePermit).endLeader id key outcome).keep key outcome
  | _ => s

def withdraw (id : Nat) (t : Ticket) : Ticket :=
  if t.call = id ∧ t.state = .waiting then { t with state := .withdrawn } else t

def isEnded : Stage → Bool
  | .ended _ => true
  | _ => false

/-- A call that has ended cannot be cancelled; a ticket that still waits is withdrawn. -/
def cancel (s : Service) (id : Nat) : Service :=
  { s with
    calls := s.calls.map fun c => if c.id = id ∧ isEnded c.stage = false then { c with isCancelled := true } else c
    tickets := s.tickets.map (withdraw id) }

def step (s : Service) : ServiceEvent → Service
  | .submit id r => s.submit id r
  | .resume id => s.resume id
  | .finish id outcome => s.finish id outcome
  | .cancel id => s.cancel id

def run (s : Service) (events : List ServiceEvent) : Service := events.foldl step s

def outcome? (s : Service) (id : Nat) : Option Outcome :=
  match s.call? id with
  | some ⟨_, .ended outcome, _⟩ => some outcome
  | _ => none

def job? (s : Service) (id : Nat) : Option Request :=
  match s.call? id with
  | some ⟨_, .running _ r, _⟩ => some r
  | _ => none

end Service
end AsmScope
