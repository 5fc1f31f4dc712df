import AsmScope.Proofs.Compile.StoreAccount
import AsmScope.Proofs.Job.Timely
import AsmScope.Proofs.Service.Agreement

/-! Which results are kept. The end of a job puts its result into the store if no tool of the job was cut off, and
the store takes it if there is room for it at all. -/

namespace AsmScope.Service

theorem keep_store_ok (s : Service) (key : String) (result : Result) :
    (s.keep key (.ok result)).store = if result.okToCache then (s.store.put key result).2 else s.store := by
  simp only [keep]
  split <;> rfl

namespace Job

theorem EndsIn.coherent {w : Workshop} {events : List ServiceEvent} {job : Job} (h : job.EndsIn w events)
    (distinct : Distinct events) : Coherent (job.met w) :=
  coherent_after (distinct.of_prefix ((List.prefix_append _ _).trans h.isPrefix))

theorem EndsIn.unstored {w : Workshop} {events : List ServiceEvent} {job : Job} (h : job.EndsIn w events)
    (distinct : Distinct events) : job.request.key ∉ (job.met w).store.keys :=
  (h.coherent distinct).unstored _ (h.mem_keysUnderWay distinct)

theorem EndsIn.store_of_ok {w : Workshop} {events : List ServiceEvent} {job : Job} (h : job.EndsIn w events)
    (distinct : Distinct events) {result : Result} (made : job.outcome = .ok result) :
    (job.left w).store =
      if result.okToCache then ((job.met w).store.put job.request.key result).2 else (job.met w).store := by
  obtain ⟨c, key, call, stage⟩ := call?_of_job? h.running
  obtain ⟨rfl, -⟩ := (h.coherent distinct).led c (mem_of_call? call) key job.request (by rw [stage]; rfl)
  rw [left_eq, event, made, met, finish_of_running _ call stage, keep_store_ok]
  simp

end Job

theorem step_capacity (s : Service) (e : ServiceEvent) : (s.step e).store.capacity = s.store.capacity := by
  have move := step_moves s e
  generalize s.step e = t at move
  cases move with
  | found => exact Store.use_capacity s.store (.get _)
  | finished call stage =>
    rename_i key r outcome
    cases outcome with
    | error e => simp [keep_store_error]
    | ok result =>
      rw [keep_store_ok]
      simp only [endLeader_beside, releasePermit_beside]
      split
      · exact Store.use_capacity s.store (.put _ _)
      · rfl
  | _ => simp [addCall, setStage, enqueue, enter, takePermit, cancel]

theorem after_capacity (w : Workshop) (events : List ServiceEvent) :
    (after w events).store.capacity = w.config.limits.cacheBytes := by
  induction events using List.reverseRecOn with
  | nil => rfl
  | append_singleton events e ih => rw [after_concat, step_capacity, ih]

/-- Whatever is held may be kept. -/
theorem okToCache_of_stored {w : Workshop} {events : List ServiceEvent} (distinct : Distinct events) {e : Stored}
    (held : e ∈ (after w events).store.entries) : e.result.okToCache = true := by
  obtain ⟨-, -, -, -, kept⟩ := (accounted_after distinct).stored e held
  exact kept

theorem not_kept_of_late {w : Workshop} {events : List ServiceEvent} (distinct : Distinct events) {job : Job}
    (ended : job.EndsIn w events) {result : Result} (made : job.outcome = .ok result)
    (late : result.okToCache = false) :
    (job.left w).store = (job.met w).store ∧ job.request.key ∉ (job.left w).store.keys ∧
      ∀ later : Submission, later.IsIn events → job.before.length < later.before.length →
        ¬ later.FoundFrom w job ∧ ¬ later.PartOf w job := by
  have same : (job.left w).store = (job.met w).store := by
    rw [ended.store_of_ok distinct made, late]
    rfl
  refine ⟨same, same ▸ ended.unstored distinct, fun later came order => ?_⟩
  refine ⟨?_, not_partOf_of_later distinct ended came order⟩
  rintro ⟨-, result', made', found⟩
  obtain rfl := Except.ok.inj (made.symm.trans made')
  cases stored : (later.met w).store.find? job.request.key with
  | none =>
    rw [Store.get_of_find?_none stored] at found
    cases found
  | some entry =>
    rw [Store.get_of_find? stored, Option.some.injEq] at found
    have kept := okToCache_of_stored (distinct.of_prefix came.before_prefix) (Store.mem_of_find? stored).1
    rw [found, late] at kept
    cases kept

/-- A result that may be kept is held after its job exactly if there is room for it in an empty store. -/
theorem kept_iff_of_timely {w : Workshop} {events : List ServiceEvent} (distinct : Distinct events) {job : Job}
    (ended : job.EndsIn w events) {result : Result} (made : job.outcome = .ok result)
    (timely : result.okToCache = true) :
    (job.left w).store.find? job.request.key =
        some ⟨job.request.key, result, result.entrySize job.request.key⟩ ↔
      (result.entrySize job.request.key : Int) ≤ w.config.limits.cacheBytes := by
  have capacity : (job.met w).store.capacity = w.config.limits.cacheBytes := after_capacity w job.before
  rw [ended.store_of_ok distinct made, if_pos timely, ← capacity]
  constructor
  · intro stored
    by_contra large
    rw [Store.put_of_large (Int.not_le.mp large), (Store.find?_eq_none_iff _ _).mpr (ended.unstored distinct)] at stored
    cases stored
  · exact Store.find?_put

def hanging (l : Launch) : ToolRun where
  launch := l
  streams := true
  code := none
  events := [.deadline, .exited (-9), .closed .out, .closed .err]
  returned := rfl

def hangingAnswers : (work : Work) → Except Failure work.Answer
  | .acquire => .ok "ws/job1"
  | .write _ _ => .ok ()
  | .launch l => .ok (hanging l).output
  | .measure _ => .ok none
  | .read _ => .ok []
  | .release _ => .ok ()
  | .pause => .ok ()

def hangingRun : List Answered × Outcome := (Compile.job smallWorkshop plainRequest).follow hangingAnswers

def hangingCompiler : ToolRun :=
  hanging ⟨.exec "/bin/cc" ["-g", "-o", "ws/job1/output.s", "-S", "ws/job1/example.cpp"], some "ws/job1", some [],
    ⟨10000, 5000⟩⟩

def hangingResult : Result :=
  ⟨some (-9), [], [⟨"Killed - processing time exceeded", none⟩], .plain "<Compilation failed>", false, none⟩

def twiceWith (result : Result) : List ServiceEvent :=
  [.submit 0 plainRequest, .finish 0 (.ok result), .submit 1 plainRequest]

def firstJob (result : Result) : Job := ⟨[.submit 0 plainRequest], 0, plainRequest, .ok result⟩

def second (result : Result) : Submission :=
  ⟨[.submit 0 plainRequest, .finish 0 (.ok result)], 1, plainRequest⟩

end AsmScope.Service
