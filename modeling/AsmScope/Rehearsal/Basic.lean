import AsmScope.Rehearsal.Machine
import AsmScope.Service.Basic

/-! Rehearsing a service on a described machine. Calls and jobs take turns in order of time, and in order of
their coming at one time. A job waits in the agenda with its answer, and with the plan it goes on with should
it be cancelled before the answer comes. -/

namespace AsmScope

inductive Turn where
  | call
  | job (plan ifCancelled : Plan Result)

structure Due where
  time : Int
  call : Nat
  turn : Turn

structure Rehearsal where
  service : Service
  machine : Machine
  agenda : List Due
  next : Nat

namespace Rehearsal

def start (w : Workshop) (rules : List Rule) : Rehearsal :=
  ⟨.start w, .start w.config.workspace w.config.compilation.fileName Compile.outputName rules, [], 0⟩

def now (r : Rehearsal) : Int := r.machine.manager.now

/-- A turn is due after all that are due before it or with it. -/
def insertDue (d : Due) : List Due → List Due
  | [] => [d]
  | e :: rest => if d.time < e.time then d :: e :: rest else e :: insertDue d rest

def add (r : Rehearsal) (d : Due) : Rehearsal := { r with agenda := insertDue d r.agenda }

def isReady (s : Service) (c : Call) : Bool :=
  match c.stage with
  | .queued _ _ => c.isCancelled || (s.ticket? c.id).any fun t => t.state == .handed
  | .joined _ => c.isCancelled
  | .answered _ => true
  | _ => false

def hasTurn (r : Rehearsal) (id : Nat) : Bool := r.agenda.any fun d => d.call = id

def wake (r : Rehearsal) : Rehearsal :=
  let ready := r.service.calls.filter fun c => isReady r.service c && !r.hasTurn c.id
  ready.foldl (fun r c => r.add ⟨r.now, c.id, .call⟩) r

def advance (r : Rehearsal) (id : Nat) (plan : Plan Result) : Rehearsal :=
  match plan with
  | .ended outcome => wake { r with service := r.service.step (.finish id outcome) }
  | .await w next =>
    let (answer, ms, machine) := r.machine.perform w
    add { r with machine := machine }
      ⟨r.now + ms * Machine.nanosPerMilli, id, .job (next answer) (next (.error .cancelled))⟩

def begin (r : Rehearsal) (id : Nat) : Rehearsal :=
  match r.service.job? id with
  | some request => r.advance id (Compile.job r.service.workshop request)
  | none => r

def setNow (r : Rehearsal) (time : Int) : Rehearsal :=
  { r with machine := { r.machine with manager := { r.machine.manager with now := max r.machine.manager.now time } } }

def takeTurn (r : Rehearsal) (d : Due) : Rehearsal :=
  match d.turn with
  | .call => ({ r with service := r.service.step (.resume d.call) } : Rehearsal).wake.begin d.call
  | .job plan _ => r.advance d.call plan

def takeTurns (limit : Option Int) : Nat → Rehearsal → Rehearsal
  | 0, r => r
  | fuel + 1, r =>
    match r.agenda with
    | [] => r
    | d :: rest =>
      if limit.all (d.time < ·) then
        takeTurns limit fuel ((({ r with agenda := rest } : Rehearsal).setNow d.time).takeTurn d)
      else r

/-- No call has more turns than this: a job waits seven times at most, and a call twice. -/
def turnsPerCall : Nat := 16

def fuelFor (calls : Nat) : Nat := turnsPerCall * (calls + 1)

def submit (r : Rehearsal) (request : Request) : Nat × Rehearsal :=
  let id := r.next
  let r := { r with service := r.service.step (.submit id request), next := r.next + 1 }
  (id, r.begin id)

def cancelTurn (time : Int) (id : Nat) (d : Due) : Due :=
  match d.turn with
  | .job _ ifCancelled => if d.call = id then ⟨time, id, .job ifCancelled ifCancelled⟩ else d
  | .call => d

def cancel (r : Rehearsal) (id : Nat) : Rehearsal :=
  let agenda := r.agenda.map (cancelTurn r.now id)
  let (mine, others) := agenda.partition fun d => d.call = id
  let r := { r with service := r.service.step (.cancel id), agenda := others }
  wake (mine.foldl add r)

def submitAll (r : Rehearsal) : List Request → List Nat × Rehearsal
  | [] => ([], r)
  | request :: rest =>
    let (id, r) := r.submit request
    let (ids, r) := submitAll r rest
    (id :: ids, r)

def outcomeOf (r : Rehearsal) (id : Nat) : Outcome := (r.service.outcome? id).getD (.error .cancelled)

def settle (r : Rehearsal) (ids : List Nat) : List Outcome × Rehearsal :=
  let r := takeTurns none (fuelFor ids.length) r
  (ids.map r.outcomeOf, { r with service := { r.service with calls := [] } })

def batch (r : Rehearsal) (requests : List Request) : List Outcome × Rehearsal :=
  let (ids, r) := r.submitAll requests
  r.settle ids

/-- All requests come in at once, and after a millisecond the first is cancelled. The number is that of the jobs
under way just before. -/
def batchCancelled (r : Rehearsal) (requests : List Request) : Nat × List Outcome × Rehearsal :=
  let (ids, r) := r.submitAll requests
  let time := r.now + Machine.nanosPerMilli
  let r := (takeTurns (some time) (fuelFor ids.length) r).setNow time
  let before := r.service.inFlight.length
  let r := match ids.head? with
    | some id => r.cancel id
    | none => r
  let (outcomes, r) := r.settle ids
  (before, outcomes, r)

def single (r : Rehearsal) (request : Request) : Outcome × Rehearsal :=
  let (outcomes, r) := r.batch [request]
  (outcomes.headD (.error .cancelled), r)

def compile (r : Rehearsal) (request : Request) : Outcome × Rehearsal :=
  let (outcome, machine) := r.machine.runPlan (Compile.job r.service.workshop request)
  (outcome, { r with machine := machine })

def clearNotes (r : Rehearsal) : Rehearsal := { r with machine := { r.machine with launches := [], peak := 0 } }

end Rehearsal
end AsmScope
