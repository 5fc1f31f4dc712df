import AsmScope.Proofs.Compile.RequestKey
import AsmScope.Proofs.Service.Admissible
import AsmScope.Proofs.Service.History

/-! Where the answers come from. A call is refused, or it is part of one job, or it is given a result that an
earlier job has left in the store; in each case the job was for the request of the call in its normal form. One
invariant holds the origins of the answers and of the stored results together, for either comes from the other. -/

namespace AsmScope.Service

/-- Whose job a call is part of: it leads the job itself, or it waits for the leader. -/
def part? (c : Call) : Option Nat :=
  match c.stage with
  | .queued _ _ => some c.id
  | .running _ _ => some c.id
  | .joined leader => some leader
  | _ => none

def leaderOf? (s : Service) (id : Nat) : Option Nat := (s.call? id).bind part?

def Leads (s : Service) (id : Nat) (r : Request) : Prop := ∃ c ∈ s.calls, c.id = id ∧ led? c.stage = some (r.key, r)

namespace Submission

def Wants (w : Workshop) (sub : Submission) (r : Request) : Prop := (sub.met w).admissible sub.request = .ok r

def PartOf (w : Workshop) (sub : Submission) (job : Job) : Prop := (sub.left w).leaderOf? sub.id = some job.leader

/-- The job had ended when it came in, and the store held the result. -/
def FoundFrom (w : Workshop) (sub : Submission) (job : Job) : Prop :=
  job.EndsIn w sub.before ∧
    ∃ result, job.outcome = .ok result ∧ ((sub.met w).store.get job.request.key).1 = some result

theorem IsIn.before_prefix {sub : Submission} {events : List ServiceEvent} (h : sub.IsIn events) :
    sub.before <+: events := (List.prefix_append _ _).trans h

theorem isIn_concat {sub : Submission} {events : List ServiceEvent} {e : ServiceEvent}
    (h : sub.IsIn (events ++ [e])) : sub.IsIn events ∨ sub.before = events ∧ sub.event = e := by
  rcases List.prefix_concat_iff.mp h with same | old
  · obtain ⟨before, event⟩ := List.append_inj' same rfl
    exact .inr ⟨before, List.singleton_inj.mp event⟩
  · exact .inl old

theorem IsIn.exists_call {w : Workshop} {sub : Submission} {events : List ServiceEvent} (h : sub.IsIn events) :
    ∃ c ∈ (after w events).calls, c.id = sub.id := by
  have known : sub.id ∈ (after w events).calls.map Call.id := by
    rw [after_ids]
    exact List.mem_filterMap.mpr ⟨sub.event, h.subset (by simp), rfl⟩
  exact List.mem_map.mp known

theorem left_eq (w : Workshop) (sub : Submission) : sub.left w = (sub.met w).step sub.event := after_concat ..

theorem exists_wants {w : Workshop} (sub : Submission) (here : w.IsLocal sub.request.compiler) :
    ∃ r, sub.Wants w r := by
  obtain ⟨entry, found, here⟩ := here
  exact ⟨_, admissible_of_local (by rw [met, after_workshop]; exact found) here⟩

theorem Wants.normalize {w : Workshop} {sub : Submission} {r : Request} (h : sub.Wants w r) :
    w.normalize sub.request = .ok r ∧ w.validate r = w.validate sub.request := by
  have normal := (admissible_eq_ok h).2
  rwa [met, after_workshop] at normal

end Submission

/-- The ways in which a submission comes to its outcome. -/
inductive Answer (w : Workshop) (events : List ServiceEvent) (sub : Submission) : Outcome → Prop where
  | refused {e : Failure} (inadmissible : (sub.met w).admissible sub.request = .error e) :
      Answer w events sub (.error e)
  | invalid {r : Request} {e : Failure} (wants : sub.Wants w r) (bad : w.validate r = .error e) :
      Answer w events sub (.error e)
  | stored {job : Job} {result : Result} (wants : sub.Wants w job.request) (found : sub.FoundFrom w job)
      (made : job.outcome = .ok result) (kept : result.okToCache = true) : Answer w events sub (.ok result)
  | shared {job : Job} (wants : sub.Wants w job.request) (ended : job.EndsIn w events) (part : sub.PartOf w job) :
      Answer w events sub job.outcome
  | cancelled : Answer w events sub (.error .cancelled)

/-- What is known of a submission from the stage of its call. -/
inductive Account (w : Workshop) (events : List ServiceEvent) (sub : Submission) : Stage → Prop where
  | leading {stage : Stage} {key : String} {r : Request} (led : led? stage = some (key, r)) (wants : sub.Wants w r)
      (part : (sub.left w).leaderOf? sub.id = some sub.id) : Account w events sub stage
  | joined {leader : Nat} {r : Request} (wants : sub.Wants w r)
      (part : (sub.left w).leaderOf? sub.id = some leader) (underWay : (after w events).Leads leader r) :
      Account w events sub (.joined leader)
  | answered {outcome : Outcome} (answer : Answer w events sub outcome) : Account w events sub (.answered outcome)
  | ended {outcome : Outcome} (answer : Answer w events sub outcome) : Account w events sub (.ended outcome)

structure Accounted (w : Workshop) (events : List ServiceEvent) : Prop where
  calls : ∀ sub : Submission, sub.IsIn events → ∀ c ∈ (after w events).calls, c.id = sub.id →
    Account w events sub c.stage
  /-- Every stored result was made by a job that ran for the request of its key. -/
  stored : ∀ e ∈ (after w events).store.entries, ∃ job : Job, job.EndsIn w events ∧ job.request.key = e.key ∧
    job.outcome = .ok e.result ∧ e.result.okToCache = true

theorem Answer.mono {w : Workshop} {events more : List ServiceEvent} {sub : Submission} {outcome : Outcome}
    (h : Answer w events sub outcome) (further : events <+: more) : Answer w more sub outcome := by
  cases h with
  | refused inadmissible => exact .refused inadmissible
  | invalid wants bad => exact .invalid wants bad
  | stored wants found made kept => exact .stored wants found made kept
  | shared wants ended part => exact .shared wants (ended.mono further) part
  | cancelled => exact .cancelled

theorem Account.mono {w : Workshop} {events more : List ServiceEvent} {sub : Submission} {stage : Stage}
    (h : Account w events sub stage) (further : events <+: more)
    (still : ∀ leader r, stage = .joined leader → (after w events).Leads leader r → (after w more).Leads leader r) :
    Account w more sub stage := by
  cases h with
  | leading led wants part => exact .leading led wants part
  | joined wants part underWay => exact .joined wants part (still _ _ rfl underWay)
  | answered answer => exact .answered (answer.mono further)
  | ended answer => exact .ended (answer.mono further)

theorem Leads.of_append {s t : Service} {id : Nat} {r : Request} {more : List Call} (h : s.Leads id r)
    (calls : t.calls = s.calls ++ more) : t.Leads id r := by
  obtain ⟨c, hc, hid, led⟩ := h
  exact ⟨c, calls ▸ List.mem_append_left _ hc, hid, led⟩

theorem Leads.of_map {s t : Service} {id : Nat} {r : Request} {f : Call → Call} (h : s.Leads id r)
    (calls : t.calls = s.calls.map f) (ids : ∀ c, (f c).id = c.id)
    (leading : ∀ c ∈ s.calls, c.id = id → led? (f c).stage = led? c.stage) : t.Leads id r := by
  obtain ⟨c, hc, hid, led⟩ := h
  refine ⟨f c, calls ▸ List.mem_map_of_mem hc, (ids c).trans hid, ?_⟩
  rw [leading c hc hid, led]

theorem Leads.eq {s : Service} (ids : (s.calls.map Call.id).Nodup) {c : Call} {key : String} {r r' : Request}
    (hc : c ∈ s.calls) (led : led? c.stage = some (key, r)) (h : s.Leads c.id r') : r' = r := by
  obtain ⟨d, hd, hid, led'⟩ := h
  obtain rfl := List.inj_on_of_nodup_map ids hd hc hid
  exact (Prod.mk.inj (Option.some.inj (led'.symm.trans led))).2

theorem leaderOf?_of_mem {s : Service} (ids : (s.calls.map Call.id).Nodup) {c : Call} (hc : c ∈ s.calls) :
    s.leaderOf? c.id = part? c := by
  rw [leaderOf?, call?_of_mem ids hc, Option.bind_some]

/-- The end of a leader's job answers the leader and whoever waits for it. -/
theorem Account.settled {w : Workshop} {events more : List ServiceEvent} {sub : Submission} {leader c : Call}
    {key : String} {r : Request} {outcome : Outcome} (ids : ((after w events).calls.map Call.id).Nodup)
    (member : leader ∈ (after w events).calls) (led : led? leader.stage = some (key, r)) (further : events <+: more)
    (calls : (after w more).calls = (after w events).calls.map (settled leader.id outcome))
    (answer : sub.Wants w r → (sub.left w).leaderOf? sub.id = some leader.id → Answer w more sub outcome)
    (hc : c ∈ (after w events).calls) (hid : c.id = sub.id) (h : Account w events sub c.stage) :
    Account w more sub (Service.settled leader.id outcome c).stage := by
  -- The call is the leader itself, or waits for it, or has nothing to do with it.
  by_cases same : c.id = leader.id
  · obtain rfl := List.inj_on_of_nodup_map ids hc member same
    rw [Service.settled, if_pos rfl]
    generalize c.stage = stage at h led
    cases h with
    | leading led' wants part =>
      rw [led, Option.some.injEq, Prod.mk.injEq] at led'
      rw [← led'.2] at wants
      rw [← hid] at part
      exact .ended (answer wants (hid ▸ part))
    | joined => cases led
    | answered => cases led
    | ended => cases led
  · by_cases waits : c.stage = .joined leader.id
    · rw [Service.settled, if_neg same]
      simp only [waits, if_true]
      rw [waits] at h
      cases h with
      | leading led' => cases led'
      | joined wants part underWay =>
        obtain rfl := underWay.eq ids member led
        exact .answered (answer wants part)
    · rw [settled_of_ne same fun l stage same => waits (same ▸ stage)]
      refine h.mono further fun l r' stage underWay => underWay.of_map calls (settled_id _ _) fun d _ hd => ?_
      have other : d.id ≠ leader.id := fun same => waits (by rw [stage, ← hd, same])
      exact led?_settled_of_ne other

theorem Account.staged {w : Workshop} {events more : List ServiceEvent} {sub : Submission} {id : Nat} {c d : Call}
    {stage : Stage} (ids : ((after w events).calls.map Call.id).Nodup) (call : (after w events).call? id = some d)
    (same : led? stage = led? d.stage) (further : events <+: more)
    (calls : (after w more).calls = (after w events).calls.map (staged id stage))
    (own : Account w events sub d.stage → Account w more sub stage) (hc : c ∈ (after w events).calls)
    (h : Account w events sub c.stage) : Account w more sub (Service.staged id stage c).stage := by
  by_cases hid : c.id = id
  · obtain rfl := eq_of_call? ids call hc hid
    rw [Service.staged, if_pos hid]
    exact own h
  · rw [staged_of_ne hid]
    refine h.mono further fun l r _ underWay => underWay.of_map calls (staged_id _ _) fun d' hd' _ => ?_
    exact led?_staged ids stage call same d' hd'

namespace Accounted

theorem start (w : Workshop) : Accounted w [] where
  calls sub came := absurd came.length_le (by simp)
  stored := by simp [Service.start, Store.empty]

theorem addCall {w : Workshop} {events : List ServiceEvent} {id : Nat} {r : Request} (h : Accounted w events)
    (distinct : Distinct (events ++ [.submit id r])) {stage : Stage}
    (calls : (after w (events ++ [.submit id r])).calls = (after w events).calls ++ [⟨id, stage, false⟩])
    (store : ∀ e ∈ (after w (events ++ [.submit id r])).store.entries, e ∈ (after w events).store.entries)
    (account : (after w (events ++ [.submit id r])).leaderOf? id = part? ⟨id, stage, false⟩ →
      Account w (events ++ [.submit id r]) ⟨events, id, r⟩ stage) : Accounted w (events ++ [.submit id r]) where
  calls sub came c hc hid := by
    have member : (⟨id, stage, false⟩ : Call) ∈ (after w (events ++ [.submit id r])).calls := by simp [calls]
    rw [calls, List.mem_append, List.mem_singleton] at hc
    rcases Submission.isIn_concat came with old | ⟨before, event⟩
    · rcases hc with hc | rfl
      · exact (h.calls sub old c hc hid).mono (List.prefix_append _ _) fun _ _ _ underWay => underWay.of_append calls
      · obtain ⟨d, hd, same⟩ := old.exists_call (w := w)
        exact absurd (same.trans hid.symm) (ne_of_submitted distinct hd)
    · obtain ⟨_, _, _⟩ := sub
      obtain rfl := before
      obtain ⟨rfl, rfl⟩ := ServiceEvent.submit.inj event
      rcases hc with hc | rfl
      · exact absurd hid (ne_of_submitted distinct hc)
      · exact account (leaderOf?_of_mem (ids_nodup distinct) member)
  stored e he := by
    obtain ⟨job, ended, made⟩ := h.stored e (store e he)
    exact ⟨job, ended.mono (List.prefix_append _ _), made⟩

theorem map {w : Workshop} {events : List ServiceEvent} {e : ServiceEvent} (h : Accounted w events)
    (known : submitted? e = none) (f : Call → Call) (ids : ∀ c, (f c).id = c.id)
    (calls : (after w (events ++ [e])).calls = (after w events).calls.map f)
    (accounts : ∀ sub, ∀ c ∈ (after w events).calls, c.id = sub.id → Account w events sub c.stage →
      Account w (events ++ [e]) sub (f c).stage)
    (store : ∀ entry ∈ (after w (events ++ [e])).store.entries, entry ∈ (after w events).store.entries ∨
      ∃ job : Job, job.EndsIn w (events ++ [e]) ∧ job.request.key = entry.key ∧ job.outcome = .ok entry.result ∧
        entry.result.okToCache = true) : Accounted w (events ++ [e]) where
  calls sub came d hd hid := by
    rcases Submission.isIn_concat came with old | ⟨-, rfl⟩
    · rw [calls] at hd
      obtain ⟨c, hc, rfl⟩ := List.mem_map.mp hd
      have own : c.id = sub.id := (ids c).symm.trans hid
      exact accounts sub c hc own (h.calls sub old c hc own)
    · cases known
  stored entry hentry := by
    rcases store entry hentry with hentry | made
    · obtain ⟨job, ended, made⟩ := h.stored entry hentry
      exact ⟨job, ended.mono (List.prefix_append _ _), made⟩
    · exact made

theorem step {w : Workshop} {events : List ServiceEvent} {e : ServiceEvent} (h : Accounted w events)
    (distinct : Distinct (events ++ [e])) : Accounted w (events ++ [e]) := by
  have ids : ((after w events).calls.map Call.id).Nodup := ids_nodup distinct.of_append
  have coherent : Coherent (after w events) := coherent_after distinct.of_append
  have further : events <+: events ++ [e] := List.prefix_append _ _
  have move := step_moves (after w events) e
  rw [← after_concat] at move
  generalize next : after w (events ++ [e]) = t at move
  cases move with
  | refused inadmissible =>
    exact h.addCall distinct (by rw [next]; rfl) (by rw [next]; exact fun _ he => he) fun _ =>
      .ended (.refused inadmissible)
  | @found id r r' entry admissible stored =>
    obtain ⟨hentry, hkey⟩ := Store.mem_of_find? stored
    obtain ⟨job, ended, key, made, kept⟩ := h.stored entry hentry
    obtain rfl := Request.key_injective (key.trans hkey)
    refine h.addCall distinct (by rw [next]; rfl) (by rw [next]; exact fun _ he => Store.mem_entries_of_mem_get he)
      fun _ => ?_
    have found : Submission.FoundFrom w ⟨events, id, r⟩ job :=
      ⟨ended, entry.result, made, congrArg Prod.fst (Store.get_of_find? stored)⟩
    exact .ended (.stored admissible found made kept)
  | joined admissible unstored underWay =>
    refine h.addCall distinct (by rw [next]; rfl) (by rw [next]; exact fun _ he => he) fun part => ?_
    -- The leader's job has the key of this request, so it is for this request.
    obtain ⟨c, hc, rfl, r, led⟩ := (coherent.table _ _).mp (mem_of_leader? underWay)
    obtain rfl := Request.key_injective (coherent.led c hc _ r led).1
    have leads : (after w events).Leads c.id _ := ⟨c, hc, rfl, led⟩
    exact .joined admissible part (leads.of_append (by rw [next]; rfl))
  | invalid admissible unstored notUnderWay bad =>
    rw [after_workshop] at bad
    exact h.addCall distinct (by rw [next]; rfl) (by rw [next]; exact fun _ he => he) fun _ =>
      .ended (.invalid admissible bad)
  | @queued id r r' admissible =>
    have calls : (after w (events ++ [.submit id r])).calls =
        (after w events).calls ++ [⟨id, .queued r'.key r', false⟩] := by rw [next]; rfl
    exact h.addCall distinct calls (by rw [next]; exact fun _ he => he) fun part => .leading rfl admissible part
  | @led id r r' admissible =>
    have calls : (after w (events ++ [.submit id r])).calls =
        (after w events).calls ++ [⟨id, .running r'.key r', false⟩] := by rw [next]; rfl
    exact h.addCall distinct calls (by rw [next]; exact fun _ he => he) fun part => .leading rfl admissible part
  | idle known =>
    have calls : (after w (events ++ [e])).calls = (after w events).calls.map fun c => c := by rw [next]; simp
    refine h.map known _ (fun _ => rfl) calls (fun sub c _ _ account => ?_) (by rw [next]; exact fun _ he => .inl he)
    exact account.mono further fun _ _ _ underWay => by rwa [next]
  | @withdrawn id c key r t call stage | @returned id c key r t call stage =>
    obtain rfl := call?_id call
    have calls : (after w (events ++ [.resume c.id])).calls =
        (after w events).calls.map (settled c.id (.error .cancelled)) := by rw [next]; simp
    refine h.map rfl _ (settled_id _ _) calls (fun sub d hd hid account => ?_) (by rw [next]; simp +contextual)
    exact account.settled ids (mem_of_call? call) (by rw [stage]; rfl) further calls (fun _ _ => .cancelled) hd hid
  | begun call stage =>
    have calls := congrArg Service.calls next
    simp only [setStage_calls, handIfFree_beside, dropTicket_beside] at calls
    refine h.map rfl _ (staged_id _ _) calls (fun sub d hd _ account => ?_) (by rw [next]; simp +contextual [setStage])
    refine account.staged ids call (by rw [stage]; rfl) further calls (fun own => ?_) hd
    rw [stage] at own
    cases own with
    | leading led wants part => exact .leading led wants part
  | left call stage =>
    have calls := congrArg Service.calls next
    rw [setStage_calls] at calls
    refine h.map rfl _ (staged_id _ _) calls (fun sub d hd _ account => ?_) (by rw [next]; exact fun _ he => .inl he)
    exact account.staged ids call (by rw [stage]; rfl) further calls (fun _ => .ended .cancelled) hd
  | @told id c outcome call stage =>
    have calls := congrArg Service.calls next
    rw [setStage_calls] at calls
    refine h.map rfl _ (staged_id _ _) calls (fun sub d hd _ account => ?_) (by rw [next]; exact fun _ he => .inl he)
    refine account.staged ids call (by rw [stage]; rfl) further calls (fun own => ?_) hd
    rw [stage] at own
    cases own with
    | leading led => cases led
    | answered answer =>
      cases c.isCancelled with
      | true => exact .ended .cancelled
      | false => exact .ended (answer.mono further)
  | @finished id c key r outcome call stage =>
    obtain rfl := call?_id call
    have led : led? c.stage = some (key, r) := by rw [stage]; rfl
    obtain ⟨rfl, -⟩ := coherent.led c (mem_of_call? call) key r led
    have running : (after w events).job? c.id = some r := job?_of_running call stage
    have ended : Job.EndsIn w (events ++ [.finish c.id outcome]) ⟨events, c.id, r, outcome⟩ :=
      ⟨List.prefix_refl _, running⟩
    have calls : (after w (events ++ [.finish c.id outcome])).calls =
        (after w events).calls.map (settled c.id outcome) := by rw [next]; simp
    refine h.map rfl _ (settled_id _ _) calls (fun sub d hd hid account => ?_) fun entry hentry => ?_
    · refine account.settled ids (mem_of_call? call) led further calls (fun wants part => ?_) hd hid
      exact .shared wants ended part
    · rw [next] at hentry
      rcases mem_entries_of_mem_keep hentry with old | ⟨hkey, made, kept⟩
      · exact .inl (by simpa using old)
      · exact .inr ⟨_, ended, hkey.symm, made, kept⟩
  | @cancelled id =>
    have calls := congrArg Service.calls next
    rw [cancel_calls] at calls
    refine h.map rfl _ (flagged_id _) calls (fun sub c _ _ account => ?_) (by rw [next]; exact fun _ he => .inl he)
    rw [flagged_stage]
    exact account.mono further fun _ _ _ underWay =>
      underWay.of_map calls (flagged_id _) fun d _ _ => by rw [flagged_stage]

end Accounted

theorem accounted_after {w : Workshop} {events : List ServiceEvent} (distinct : Distinct events) :
    Accounted w events :=
  run_induction (P := Accounted w) (Accounted.start w) (fun _ _ distinct h => h.step distinct) events distinct

theorem answer_of_outcome? {w : Workshop} {events : List ServiceEvent} (distinct : Distinct events) {sub : Submission}
    (came : sub.IsIn events) {outcome : Outcome} (h : (after w events).outcome? sub.id = some outcome) :
    Answer w events sub outcome := by
  obtain ⟨c, hc, hid, ended⟩ := endedWith_of_outcome? h
  have account := (accounted_after distinct).calls sub came c hc hid
  rw [ended] at account
  cases account with
  | leading led => cases led
  | ended answer => exact answer

theorem outcome?_of_found {w : Workshop} {events : List ServiceEvent} (distinct : Distinct events) {sub : Submission}
    (came : sub.IsIn events) {r : Request} {result : Result} (wants : sub.Wants w r)
    (found : ((sub.met w).store.get r.key).1 = some result) :
    (after w events).outcome? sub.id = some (.ok result) ∧ result.okToCache = true := by
  cases stored : (sub.met w).store.find? r.key with
  | none =>
    rw [Store.get_of_find?_none stored] at found
    cases found
  | some entry =>
    rw [Store.get_of_find? stored, Option.some.injEq] at found
    subst found
    have ended : EndedWith (sub.left w) sub.id (.ok entry.result) := by
      rw [Submission.left_eq, Submission.event, Service.step, submit, wants]
      simp only [Store.get_of_find? stored]
      exact ⟨_, List.mem_append_right _ (List.mem_singleton_self _), rfl, rfl⟩
    have earlier : Accounted w sub.before := accounted_after (distinct.of_prefix came.before_prefix)
    obtain ⟨job, -, -, -, kept⟩ := earlier.stored entry (Store.mem_of_find? stored).1
    exact ⟨(ended.of_prefix distinct came).outcome? (ids_nodup distinct), kept⟩

theorem exists_leading_of_part? {w : Workshop} {events : List ServiceEvent} (distinct : Distinct events)
    {sub : Submission} (came : sub.IsIn events) {c : Call} (hc : c ∈ (after w events).calls) (hid : c.id = sub.id)
    {leader : Nat} (part : part? c = some leader) :
    ∃ d ∈ (after w events).calls, d.id = leader ∧ ∃ job, led? d.stage = some job := by
  have account := (accounted_after distinct).calls sub came c hc hid
  unfold part? at part
  cases stage : c.stage with
  | queued key r =>
    rw [stage, Option.some.injEq] at part
    exact ⟨c, hc, part, (key, r), by rw [stage]; rfl⟩
  | running key r =>
    rw [stage, Option.some.injEq] at part
    exact ⟨c, hc, part, (key, r), by rw [stage]; rfl⟩
  | joined l =>
    rw [stage, Option.some.injEq] at part
    subst part
    rw [stage] at account
    cases account with
    | leading led => cases led
    | @joined _ r _ _ underWay =>
      obtain ⟨d, hd, hid, led⟩ := underWay
      exact ⟨d, hd, hid, _, led⟩
  | answered => rw [stage] at part; cases part
  | ended => rw [stage] at part; cases part

theorem not_partOf_of_later {w : Workshop} {events : List ServiceEvent} (distinct : Distinct events) {job : Job}
    (ended : job.EndsIn w events) {later : Submission} (came : later.IsIn events)
    (order : job.before.length < later.before.length) : ¬ later.PartOf w job := by
  intro part
  have known : Distinct (later.before ++ [later.event]) := distinct.of_prefix came
  have itself : later.IsIn (later.before ++ [later.event]) := List.prefix_refl _
  have past : EndedWith (later.left w) job.leader job.outcome :=
    ended.endedWith.of_prefix known (prefix_of_shorter ended.isPrefix came (by simp; omega))
  obtain ⟨c, hc, hid⟩ := itself.exists_call (w := w)
  rw [Submission.PartOf, Submission.left, ← hid, leaderOf?_of_mem (ids_nodup known) hc] at part
  obtain ⟨d, hd, hdid, _, led⟩ := exists_leading_of_part? known itself hc hid part
  obtain ⟨d', hd', hdid', stage⟩ := past
  obtain rfl := List.inj_on_of_nodup_map (ids_nodup known) hd hd' (hdid.trans hdid'.symm)
  rw [stage] at led
  cases led

theorem Answer.of_ok {w : Workshop} {events : List ServiceEvent} {sub : Submission} {outcome : Outcome}
    (h : Answer w events sub outcome) (came : sub.IsIn events) {result : Result} (returned : outcome = .ok result) :
    ∃ job : Job, job.EndsIn w events ∧ w.normalize sub.request = .ok job.request ∧ job.outcome = .ok result ∧
      (sub.PartOf w job ∨ sub.FoundFrom w job) := by
  cases h with
  | refused => cases returned
  | invalid => cases returned
  | @stored job _ wants found made =>
    exact ⟨job, found.1.mono came.before_prefix, wants.normalize.1, made.trans returned, .inr found⟩
  | @shared job wants ended part => exact ⟨job, ended, wants.normalize.1, returned, .inl part⟩
  | cancelled => cases returned

theorem Answer.of_error {w : Workshop} {events : List ServiceEvent} {sub : Submission} {outcome : Outcome}
    (h : Answer w events sub outcome) {failure : Failure} (failed : outcome = .error failure)
    (here : w.IsLocal sub.request.compiler) (valid : w.validate sub.request = .ok ()) (other : failure ≠ .cancelled) :
    ∃ job : Job, job.EndsIn w events ∧ w.normalize sub.request = .ok job.request ∧ job.outcome = .error failure ∧
      sub.PartOf w job := by
  cases h with
  | refused inadmissible =>
    obtain ⟨r, wants⟩ := sub.exists_wants here
    exact nomatch inadmissible.symm.trans wants
  | invalid wants bad =>
    rw [wants.normalize.2, valid] at bad
    cases bad
  | stored => cases failed
  | @shared job wants ended part => exact ⟨job, ended, wants.normalize.1, failed, part⟩
  | cancelled => exact absurd (Except.error.inj failed).symm other

/-- One job for two requests that ask for the same, which fails while one of them waits for it. -/
def failedTwins : List ServiceEvent :=
  [.submit 0 plainRequest, .submit 1 binaryRequest, .finish 0 (.error (.fault "stopped")), .resume 1]

def secondTwin : Submission := ⟨[.submit 0 plainRequest], 1, binaryRequest⟩

end AsmScope.Service
