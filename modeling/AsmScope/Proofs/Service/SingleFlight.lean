import AsmScope.Proofs.Service.Runs
import Mathlib.Data.List.Nodup

/-! One job for each key. The table of jobs under way names exactly the calls that lead one, no key twice, and
none whose result is stored. All of this is one invariant, because the ends of jobs keep its parts only together:
a key leaves the table in the same step in which its leader ends and its result may come to be stored. -/

namespace AsmScope.Service

def leads (key : String) (c : Call) : Bool := (led? c.stage).any fun job => job.1 == key

def leaders (s : Service) (key : String) : List Call := s.calls.filter (leads key)

def keysUnderWay (s : Service) : List String := s.inFlight.map Prod.fst

theorem led?_settled {leader : Nat} {outcome : Outcome} {c : Call} {job : String × Request} :
    led? (settled leader outcome c).stage = some job ↔ c.id ≠ leader ∧ led? c.stage = some job := by
  unfold settled
  by_cases hc : c.id = leader
  · simp [hc, led?]
  · cases hs : c.stage with
    | joined l => by_cases hl : l = leader <;> simp [hc, hl, hs, led?]
    | _ => simp [hc, hs]

theorem led?_settled_of_ne {leader : Nat} {outcome : Outcome} {c : Call} (other : c.id ≠ leader) :
    led? (settled leader outcome c).stage = led? c.stage :=
  Option.ext fun _ => led?_settled.trans (and_iff_right other)

theorem led?_staged {s : Service} (ids : (s.calls.map Call.id).Nodup) {id : Nat} {c : Call} (stage : Stage)
    (call : s.call? id = some c) (same : led? stage = led? c.stage) :
    ∀ d ∈ s.calls, led? (staged id stage d).stage = led? d.stage := by
  intro d hd
  unfold staged
  split
  · rename_i hid
    obtain rfl := List.inj_on_of_nodup_map ids hd (mem_of_call? call) (hid.trans (call?_id call).symm)
    exact same
  · rfl

theorem leader?_eq_none_iff {s : Service} {key : String} : s.leader? key = none ↔ key ∉ s.keysUnderWay := by
  rw [leader?, List.lookup_eq_none_iff, keysUnderWay, List.mem_map]
  constructor
  · rintro none ⟨entry, hentry, rfl⟩
    simpa using none entry hentry
  · intro absent entry hentry
    have other : key ≠ entry.1 := fun same => absent ⟨entry, hentry, same.symm⟩
    simpa using other

theorem mem_of_leader? {s : Service} {key : String} {leader : Nat} (h : s.leader? key = some leader) :
    (key, leader) ∈ s.inFlight := by
  obtain ⟨before, after, h, -⟩ := List.lookup_eq_some_iff.mp h
  simp [h]

structure Coherent (s : Service) : Prop where
  keys : s.keysUnderWay.Nodup
  table : ∀ key id, (key, id) ∈ s.inFlight ↔ ∃ c ∈ s.calls, c.id = id ∧ ∃ r, led? c.stage = some (key, r)
  unstored : ∀ key ∈ s.keysUnderWay, key ∉ s.store.keys
  /-- Jobs under way are for valid requests, under their own keys. -/
  led : ∀ c ∈ s.calls, ∀ key r, led? c.stage = some (key, r) → key = r.key ∧ s.workshop.validate r = .ok ()
  stored : ∀ key ∈ s.store.keys, ∃ r : Request, key = r.key ∧ s.workshop.validate r = .ok ()

namespace Coherent

theorem start (w : Workshop) : Coherent (start w) := by
  constructor <;> simp [Service.start, keysUnderWay, Store.empty, Store.keys]

theorem mem_keysUnderWay {s : Service} (h : Coherent s) {c : Call} (hc : c ∈ s.calls) {key : String}
    {r : Request} (hled : led? c.stage = some (key, r)) : key ∈ s.keysUnderWay :=
  List.mem_map.mpr ⟨(key, c.id), (h.table key c.id).mpr ⟨c, hc, rfl, r, hled⟩, rfl⟩

theorem addCall {s t : Service} (h : Coherent s) {c : Call} (idle : led? c.stage = none)
    (calls : t.calls = s.calls ++ [c]) (inFlight : t.inFlight = s.inFlight) (workshop : t.workshop = s.workshop)
    (store : ∀ key ∈ t.store.keys, key ∈ s.store.keys) : Coherent t where
  keys := by rw [keysUnderWay, inFlight]; exact h.keys
  table key id := by
    rw [inFlight, calls, h.table]
    simp [or_and_right, exists_or, idle]
  unstored key hkey stored := by
    rw [keysUnderWay, inFlight] at hkey
    exact h.unstored key hkey (store key stored)
  led d hd key r hled := by
    rw [calls, List.mem_append, List.mem_singleton] at hd
    rw [workshop]
    rcases hd with hd | rfl
    · exact h.led d hd key r hled
    · simp [idle] at hled
  stored key hkey := by
    rw [workshop]
    exact h.stored key (store key hkey)

theorem lead {s t : Service} (h : Coherent s) {c : Call} {r : Request}
    (leading : led? c.stage = some (r.key, r)) (valid : s.workshop.validate r = .ok ())
    (notUnderWay : r.key ∉ s.keysUnderWay) (notStored : r.key ∉ s.store.keys)
    (calls : t.calls = s.calls ++ [c]) (inFlight : t.inFlight = s.inFlight ++ [(r.key, c.id)])
    (workshop : t.workshop = s.workshop) (store : t.store = s.store) : Coherent t where
  keys := by
    rw [keysUnderWay, inFlight, List.map_append, List.nodup_append]
    refine ⟨h.keys, by simp, ?_⟩
    rintro key hkey other hother rfl
    simp only [List.map_cons, List.map_nil, List.mem_singleton] at hother
    exact notUnderWay (hother ▸ hkey)
  table key id := by
    rw [inFlight, calls, List.mem_append, h.table]
    simp [or_and_right, exists_or, leading, eq_comm, and_comm]
  unstored key hkey := by
    rw [keysUnderWay, inFlight, List.map_append, List.mem_append] at hkey
    rw [store]
    rcases hkey with hkey | hkey
    · exact h.unstored key hkey
    · simp only [List.map_cons, List.map_nil, List.mem_singleton] at hkey
      rwa [hkey]
  led d hd key r' hled := by
    rw [calls, List.mem_append, List.mem_singleton] at hd
    rw [workshop]
    rcases hd with hd | rfl
    · exact h.led d hd key r' hled
    · rw [leading, Option.some.injEq, Prod.mk.injEq] at hled
      obtain ⟨rfl, rfl⟩ := hled
      exact ⟨rfl, valid⟩
  stored := by
    rw [workshop, store]
    exact h.stored

theorem map {s t : Service} (h : Coherent s) (f : Call → Call) (id : ∀ c, (f c).id = c.id)
    (leading : ∀ c ∈ s.calls, led? (f c).stage = led? c.stage) (calls : t.calls = s.calls.map f)
    (inFlight : t.inFlight = s.inFlight) (workshop : t.workshop = s.workshop) (store : t.store = s.store) :
    Coherent t where
  keys := by rw [keysUnderWay, inFlight]; exact h.keys
  table key number := by
    rw [inFlight, calls, h.table]
    constructor
    · rintro ⟨c, hc, hid, r, hled⟩
      exact ⟨f c, List.mem_map_of_mem hc, (id c).trans hid, r, (leading c hc).trans hled⟩
    · rintro ⟨d, hd, hid, r, hled⟩
      obtain ⟨c, hc, rfl⟩ := List.mem_map.mp hd
      exact ⟨c, hc, (id c).symm.trans hid, r, (leading c hc).symm.trans hled⟩
  unstored := by
    rw [keysUnderWay, inFlight, store]
    exact h.unstored
  led d hd key r hled := by
    rw [calls] at hd
    obtain ⟨c, hc, rfl⟩ := List.mem_map.mp hd
    rw [workshop]
    exact h.led c hc key r ((leading c hc).symm.trans hled)
  stored := by
    rw [workshop, store]
    exact h.stored

theorem endLeader {s t : Service} (h : Coherent s) (ids : (s.calls.map Call.id).Nodup) {c : Call} {key : String}
    {r : Request} (outcome : Outcome) (member : c ∈ s.calls) (leading : led? c.stage = some (key, r))
    (calls : t.calls = s.calls.map (settled c.id outcome))
    (inFlight : t.inFlight = s.inFlight.filter fun entry => entry.1 ≠ key) (workshop : t.workshop = s.workshop)
    (store : ∀ k ∈ t.store.keys, k ∈ s.store.keys ∨ k = key) : Coherent t where
  keys := by
    rw [keysUnderWay, inFlight]
    exact h.keys.sublist (List.filter_sublist.map _)
  table k id := by
    have own := (h.table key c.id).mpr ⟨c, member, rfl, r, leading⟩
    rw [inFlight, calls, List.mem_filter, h.table]
    constructor
    · rintro ⟨⟨d, hd, hid, r', hled⟩, other⟩
      refine ⟨_, List.mem_map_of_mem hd, (settled_id ..).trans hid, r', led?_settled.mpr ⟨?_, hled⟩⟩
      intro same
      have hdc := List.inj_on_of_nodup_map ids hd member same
      rw [hdc, leading, Option.some.injEq, Prod.mk.injEq] at hled
      simp [hled.1] at other
    · rintro ⟨d', hd', hid, r', hled⟩
      obtain ⟨d, hd, rfl⟩ := List.mem_map.mp hd'
      obtain ⟨apart, hled⟩ := led?_settled.mp hled
      refine ⟨⟨d, hd, (settled_id ..).symm.trans hid, r', hled⟩, ?_⟩
      rw [decide_eq_true_eq]
      -- A second leader of the key would give the key a second entry in the table.
      rintro rfl
      have other := (h.table k d.id).mpr ⟨d, hd, rfl, r', hled⟩
      exact apart (congrArg Prod.snd (List.inj_on_of_nodup_map h.keys other own rfl))
  unstored k hk := by
    rw [keysUnderWay, inFlight] at hk
    obtain ⟨entry, hentry, rfl⟩ := List.mem_map.mp hk
    obtain ⟨hentry, other⟩ := List.mem_filter.mp hentry
    intro hstored
    rcases store _ hstored with hstored | same
    · exact h.unstored _ (List.mem_map_of_mem hentry) hstored
    · simp [same] at other
  led d' hd' k r' hled := by
    rw [calls] at hd'
    obtain ⟨d, hd, rfl⟩ := List.mem_map.mp hd'
    rw [workshop]
    exact h.led d hd k r' (led?_settled.mp hled).2
  stored k hk := by
    rw [workshop]
    rcases store k hk with hk | rfl
    · exact h.stored k hk
    · exact ⟨r, h.led c member k r leading⟩

theorem step {s : Service} (h : Coherent s) (ids : (s.calls.map Call.id).Nodup) (e : ServiceEvent) :
    Coherent (s.step e) := by
  have move := step_moves s e
  generalize s.step e = t at move
  cases move with
  | refused | joined | invalid => exact h.addCall rfl rfl rfl rfl fun _ hkey => hkey
  | found admissible stored =>
    refine h.addCall rfl rfl rfl rfl fun key hkey => ?_
    obtain ⟨e, he, rfl⟩ := List.mem_map.mp hkey
    exact List.mem_map_of_mem (Store.mem_entries_of_mem_get he)
  | queued admissible unstored notUnderWay valid | led admissible unstored notUnderWay valid =>
    exact h.lead rfl valid (leader?_eq_none_iff.mp notUnderWay) ((Store.find?_eq_none_iff ..).mp unstored)
      rfl rfl rfl rfl
  | idle => exact h
  | withdrawn call stage | returned call stage =>
    obtain rfl := call?_id call
    exact h.endLeader ids (.error .cancelled) (mem_of_call? call) (by rw [stage]; rfl) (by simp) (by simp) (by simp)
      fun k hk => .inl (by simpa using hk)
  | @begun id c key r t call stage =>
    have leading := led?_staged ids (.running key r) call (by rw [stage]; rfl)
    exact h.map _ (staged_id _ _) leading (by simp) (by simp [setStage]) (by simp [setStage]) (by simp [setStage])
  | left call stage | told call stage =>
    exact h.map (staged _ _) (staged_id _ _) (led?_staged ids _ call (by rw [stage]; rfl)) rfl rfl rfl rfl
  | @finished id c key r outcome call stage =>
    obtain rfl := call?_id call
    refine h.endLeader ids outcome (mem_of_call? call) (by rw [stage]; rfl) (by simp) (by simp) (by simp) fun k hk => ?_
    obtain ⟨e, he, rfl⟩ := List.mem_map.mp hk
    rcases mem_entries_of_mem_keep he with he | ⟨hkey, -⟩
    · exact .inl (List.mem_map_of_mem (by simpa using he))
    · exact .inr hkey
  | cancelled => exact h.map (flagged _) (flagged_id _) (fun c _ => by rw [flagged_stage]) rfl rfl rfl rfl

end Coherent

theorem coherent_after {w : Workshop} {events : List ServiceEvent} (distinct : Distinct events) :
    Coherent (after w events) := by
  refine run_induction (P := fun events => Coherent (after w events)) (Coherent.start w) ?_ events distinct
  intro events e distinct ih
  rw [after_concat]
  exact ih.step (ids_nodup distinct.of_append) e

theorem led?_of_staged {id : Nat} {stage : Stage} {d : Call} {job : String × Request}
    (h : led? (staged id stage d).stage = some job) :
    d.id = id ∧ led? stage = some job ∨ led? d.stage = some job := by
  unfold staged at h
  split at h
  · rename_i hid
    exact .inl ⟨hid, h⟩
  · exact .inr h

/-- Whoever leads a job after a step has led it before, or has just come in and met neither a stored result nor
a job under way. -/
theorem leading_of_step {s : Service} {e : ServiceEvent} {c : Call} {job : String × Request}
    (hc : c ∈ (s.step e).calls) (hled : led? c.stage = some job) :
    (∃ d ∈ s.calls, d.id = c.id ∧ led? d.stage = some job) ∨
    ∃ given, e = .submit c.id given ∧ s.admissible given = .ok job.2 ∧ job.1 = job.2.key ∧
      s.store.find? job.1 = none ∧ s.leader? job.1 = none := by
  have move := step_moves s e
  generalize s.step e = t at move hc
  cases move with
  | refused | found | joined | invalid =>
    rcases List.mem_append.mp hc with hc | hc
    · exact .inl ⟨c, hc, rfl, hled⟩
    · rw [List.mem_singleton.mp hc] at hled
      cases hled
  | queued admissible unstored notUnderWay | led admissible unstored notUnderWay =>
    rcases List.mem_append.mp hc with hc | hc
    · exact .inl ⟨c, hc, rfl, hled⟩
    · obtain rfl := List.mem_singleton.mp hc
      obtain rfl := Option.some.inj hled
      exact .inr ⟨_, rfl, admissible, rfl, unstored, notUnderWay⟩
  | idle => exact .inl ⟨c, hc, rfl, hled⟩
  | withdrawn | returned | finished =>
    simp only [keep_beside, endLeader_calls, releasePermit_beside, dropTicket_beside] at hc
    obtain ⟨d, hd, rfl⟩ := List.mem_map.mp hc
    exact .inl ⟨d, hd, (settled_id ..).symm, (led?_settled.mp hled).2⟩
  | begun call stage =>
    simp only [setStage_calls, handIfFree_beside, dropTicket_beside] at hc
    obtain ⟨d, hd, rfl⟩ := List.mem_map.mp hc
    rcases led?_of_staged hled with ⟨hid, same⟩ | same
    · exact .inl ⟨_, mem_of_call? call, by rw [staged_id, hid, call?_id call], by rw [stage]; exact same⟩
    · exact .inl ⟨d, hd, (staged_id ..).symm, same⟩
  | left | told =>
    obtain ⟨d, hd, rfl⟩ := List.mem_map.mp hc
    rcases led?_of_staged hled with ⟨-, none⟩ | same
    · cases none
    · exact .inl ⟨d, hd, (staged_id ..).symm, same⟩
  | cancelled =>
    rw [cancel_calls] at hc
    obtain ⟨d, hd, rfl⟩ := List.mem_map.mp hc
    exact .inl ⟨d, hd, (flagged_id ..).symm, by rwa [flagged_stage] at hled⟩

theorem mem_leaders {s : Service} {key : String} {c : Call} :
    c ∈ s.leaders key ↔ c ∈ s.calls ∧ ∃ r, led? c.stage = some (key, r) := by
  rw [leaders, List.mem_filter, leads]
  cases led? c.stage with
  | none => simp
  | some job =>
    obtain ⟨k, r⟩ := job
    simp

namespace Coherent

theorem id_eq {s : Service} (h : Coherent s) {key : String} {id other : Nat} (hid : (key, id) ∈ s.inFlight)
    (hother : (key, other) ∈ s.inFlight) : id = other :=
  congrArg Prod.snd (List.inj_on_of_nodup_map h.keys hid hother rfl)

theorem mem_inFlight {s : Service} (h : Coherent s) {key : String} {c : Call} (hc : c ∈ s.leaders key) :
    (key, c.id) ∈ s.inFlight := by
  obtain ⟨hc, r, hled⟩ := mem_leaders.mp hc
  exact (h.table key c.id).mpr ⟨c, hc, rfl, r, hled⟩

theorem leaders_length_le_one {s : Service} (h : Coherent s) (ids : (s.calls.map Call.id).Nodup) (key : String) :
    (s.leaders key).length ≤ 1 := by
  have apart : ((s.leaders key).map Call.id).Nodup := ids.sublist (List.filter_sublist.map _)
  match hl : s.leaders key with
  | [] => simp
  | [_] => simp
  | c :: d :: rest =>
    have hc : (key, c.id) ∈ s.inFlight := h.mem_inFlight (by simp [hl])
    have hd : (key, d.id) ∈ s.inFlight := h.mem_inFlight (by simp [hl])
    rw [hl, List.map_cons, List.map_cons, List.nodup_cons] at apart
    exact absurd (by simp [h.id_eq hc hd]) apart.1

theorem mem_keysUnderWay_iff {s : Service} (h : Coherent s) (key : String) :
    key ∈ s.keysUnderWay ↔ s.leaders key ≠ [] := by
  constructor
  · intro hkey
    obtain ⟨⟨k, id⟩, hentry, rfl⟩ := List.mem_map.mp hkey
    obtain ⟨c, hc, -, r, hled⟩ := (h.table k id).mp hentry
    exact List.ne_nil_of_mem (mem_leaders.mpr ⟨hc, r, hled⟩)
  · intro some
    obtain ⟨c, hc⟩ := List.exists_mem_of_ne_nil _ some
    exact List.mem_map_of_mem (f := Prod.fst) (h.mem_inFlight hc)

end Coherent

theorem call?_of_job? {s : Service} {id : Nat} {r : Request} (h : s.job? id = some r) :
    ∃ c key, s.call? id = some c ∧ c.stage = .running key r := by
  unfold job? at h
  split at h
  · rename_i key request flag call
    obtain rfl := Option.some.inj h
    exact ⟨_, key, call, rfl⟩
  · cases h

/-- Single flight. After any run at most one call leads the job of a key, which is the key of its request; the
table holds just the keys of such jobs, each once, and no key whose result is stored. In every step of a run a
call comes to lead the job of a key only if the key is neither stored nor in the table, and its job starts only if
the key is not stored and nobody else leads it. -/
theorem single_flight (w : Workshop) (events : List ServiceEvent) (distinct : Distinct events) :
    (∀ key, ((after w events).leaders key).length ≤ 1) ∧
    (∀ c ∈ (after w events).calls, ∀ key r, led? c.stage = some (key, r) → key = r.key) ∧
    (∀ key, key ∈ (after w events).keysUnderWay ↔ (after w events).leaders key ≠ []) ∧
    (after w events).keysUnderWay.Nodup ∧
    (∀ key ∈ (after w events).keysUnderWay, key ∉ (after w events).store.keys) ∧
    ∀ before e rest, events = before ++ e :: rest →
      (∀ key, ∀ c ∈ ((after w before).step e).leaders key, (∀ d ∈ (after w before).leaders key, d.id ≠ c.id) →
        key ∉ (after w before).keysUnderWay ∧ key ∉ (after w before).store.keys) ∧
      ∀ id r, (after w before).job? id = none → ((after w before).step e).job? id = some r →
        r.key ∉ (after w before).store.keys ∧ ∀ d ∈ (after w before).leaders r.key, d.id = id := by
  have coherent := coherent_after (w := w) distinct
  refine ⟨coherent.leaders_length_le_one (ids_nodup distinct), fun c hc key r hled => (coherent.led c hc key r hled).1,
    coherent.mem_keysUnderWay_iff, coherent.keys, coherent.unstored, ?_⟩
  rintro before e rest rfl
  have earlier : Coherent (after w before) := coherent_after distinct.of_append
  have prefixDistinct : Distinct (before ++ [e]) := by
    rw [List.append_cons] at distinct
    exact distinct.of_append
  have later : Coherent ((after w before).step e) := by
    rw [← after_concat]
    exact coherent_after prefixDistinct
  constructor
  · intro key c hc new
    obtain ⟨hc, r, hled⟩ := mem_leaders.mp hc
    rcases leading_of_step hc hled with ⟨d, hd, hid, hled⟩ | ⟨given, -, -, -, unstored, notUnderWay⟩
    · exact absurd hid (new d (mem_leaders.mpr ⟨hd, r, hled⟩))
    · exact ⟨leader?_eq_none_iff.mp notUnderWay, (Store.find?_eq_none_iff ..).mp unstored⟩
  · intro id r _ job
    obtain ⟨c, key, call, stage⟩ := call?_of_job? job
    obtain rfl := call?_id call
    have hc := mem_of_call? call
    have hled : led? c.stage = some (key, r) := by rw [stage]; rfl
    obtain ⟨rfl, -⟩ := later.led c hc key r hled
    rcases leading_of_step hc hled with ⟨d, hd, hid, hled⟩ | ⟨given, -, -, -, unstored, notUnderWay⟩
    · have member := earlier.mem_inFlight (mem_leaders.mpr ⟨hd, r, hled⟩)
      refine ⟨earlier.unstored _ (List.mem_map_of_mem (f := Prod.fst) member), fun d' hd' => ?_⟩
      rw [← hid]
      exact earlier.id_eq (earlier.mem_inFlight hd') member
    · refine ⟨(Store.find?_eq_none_iff ..).mp unstored, fun d hd => ?_⟩
      have member := List.mem_map_of_mem (f := Prod.fst) (earlier.mem_inFlight hd)
      exact absurd member (leader?_eq_none_iff.mp notUnderWay)

/-- Two calls that ask for the same, one of them in other words. -/
theorem single_flight_twins :
    Distinct [.submit 0 plainRequest, .submit 1 binaryRequest] ∧
    ((after smallWorkshop [.submit 0 plainRequest, .submit 1 binaryRequest]).leaders plainRequest.key).length = 1 := by
  have distinct : Distinct [.submit 0 plainRequest, .submit 1 binaryRequest] := by decide
  obtain ⟨one, -, table, -⟩ := single_flight smallWorkshop _ distinct
  have underWay : plainRequest.key ∈
      (after smallWorkshop [.submit 0 plainRequest, .submit 1 binaryRequest]).keysUnderWay := by decide +kernel
  have positive := List.length_pos_iff.mpr ((table plainRequest.key).mp underWay)
  exact ⟨distinct, Nat.le_antisymm (one plainRequest.key) positive⟩

end AsmScope.Service
