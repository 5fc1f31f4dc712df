import AsmScope.Proofs.Service.Agreement
import AsmScope.Proofs.Service.Rejection

/-! What a cancellation reaches. A call that leads a job, and one that was answered at once, is cancelled only by its
own cancellation. A call that joined a job ends as the leader does, unless it is cancelled itself: so the
cancellation of a leader, and no other one, goes over to calls that nobody has cancelled. -/

namespace AsmScope.Service

/-- A job that a call is running is cancelled only with the call. -/
def warrants (s : Service) : ServiceEvent → Bool
  | .finish id (.error .cancelled) => (s.call? id).all Call.isCancelled
  | _ => true

def Warranted : Service → List ServiceEvent → Prop
  | _, [] => True
  | s, e :: events => s.warrants e = true ∧ Warranted (s.step e) events

instance : (s : Service) → (events : List ServiceEvent) → Decidable (Warranted s events)
  | _, [] => inferInstanceAs (Decidable True)
  | s, e :: events =>
    have := instDecidableWarranted (s.step e) events
    inferInstanceAs (Decidable (_ ∧ _))

def wasCancelled (s : Service) (id : Nat) : Bool := (s.call? id).any Call.isCancelled

theorem warranted_append {s : Service} {events more : List ServiceEvent} :
    Warranted s (events ++ more) ↔ Warranted s events ∧ Warranted (s.run events) more := by
  induction events generalizing s with
  | nil => simp [Warranted, run]
  | cons e events ih => rw [List.cons_append, Warranted, Warranted, ih, and_assoc]; rfl

/-- All that one event can make of a call. -/
inductive Turns (after : Service) (e : ServiceEvent) (c : Call) : Call → Prop where
  | stays : Turns after e c c
  | flagged : Turns after e c { c with isCancelled := true }
  | begun {key : String} {r : Request} (stage : c.stage = .queued key r) :
      Turns after e c { c with stage := .running key r }
  | ended {job : String × Request} {outcome : Outcome} (led : led? c.stage = some job)
      (cause : e = .finish c.id outcome ∨ outcome = .error .cancelled ∧ c.isCancelled = true) :
      Turns after e c { c with stage := .ended outcome }
  | answered {leader : Nat} {outcome : Outcome} (stage : c.stage = .joined leader)
      (final : EndedWith after leader outcome) : Turns after e c { c with stage := .answered outcome }
  | left {leader : Nat} (stage : c.stage = .joined leader) (cancelled : c.isCancelled = true) :
      Turns after e c { c with stage := .ended (.error .cancelled) }
  | told {outcome : Outcome} (stage : c.stage = .answered outcome) :
      Turns after e c { c with stage := .ended (if c.isCancelled then .error .cancelled else outcome) }

theorem Turns.id_eq {s : Service} {e : ServiceEvent} {c c' : Call} (h : Turns s e c c') : c'.id = c.id := by
  cases h <;> rfl

theorem turns_settled {s t : Service} {e : ServiceEvent} {leader c : Call} {job : String × Request} {outcome : Outcome}
    (ids : (s.calls.map Call.id).Nodup) (member : leader ∈ s.calls) (led : led? leader.stage = some job)
    (calls : t.calls = s.calls.map (settled leader.id outcome))
    (cause : e = .finish leader.id outcome ∨ outcome = .error .cancelled ∧ leader.isCancelled = true)
    (hc : c ∈ s.calls) : Turns t e c (settled leader.id outcome c) := by
  by_cases same : c.id = leader.id
  · obtain rfl := List.inj_on_of_nodup_map ids hc member same
    rw [settled, if_pos rfl]
    exact .ended led cause
  · by_cases waits : c.stage = .joined leader.id
    · have final : EndedWith t leader.id outcome := by
        refine ⟨_, calls ▸ List.mem_map_of_mem member, settled_id .., ?_⟩
        rw [settled, if_pos rfl]
      rw [settled, if_neg same]
      simp only [waits, if_true]
      exact .answered waits final
    · rw [settled_of_ne same fun l stage same => waits (same ▸ stage)]
      exact .stays

theorem turns_staged {s t : Service} {e : ServiceEvent} {id : Nat} {c d : Call} {stage : Stage}
    (ids : (s.calls.map Call.id).Nodup) (call : s.call? id = some d) (own : Turns t e d { d with stage := stage })
    (hc : c ∈ s.calls) : Turns t e c (staged id stage c) := by
  by_cases same : c.id = id
  · obtain rfl := eq_of_call? ids call hc same
    rw [staged, if_pos same]
    exact own
  · rw [staged_of_ne same]
    exact .stays

theorem turns_flagged (t : Service) (e : ServiceEvent) (id : Nat) (c : Call) : Turns t e c (flagged id c) := by
  unfold flagged
  split
  · exact .flagged
  · exact .stays

theorem exists_turn {s : Service} (ids : (s.calls.map Call.id).Nodup) (e : ServiceEvent) {c : Call}
    (hc : c ∈ s.calls) : ∃ c' ∈ (s.step e).calls, Turns (s.step e) e c c' := by
  have move := step_moves s e
  generalize s.step e = t at move
  cases move with
  | refused | found | joined | invalid | queued | led => exact ⟨c, List.mem_append_left _ hc, .stays⟩
  | idle => exact ⟨c, hc, .stays⟩
  | @withdrawn id d key r t call stage ticket cancelled | @returned id d key r t call stage ticket cancelled =>
    obtain rfl := call?_id call
    refine ⟨settled d.id (.error .cancelled) c, by simpa using List.mem_map_of_mem hc, ?_⟩
    exact turns_settled ids (mem_of_call? call) (by rw [stage]; rfl) (by simp) (.inr ⟨rfl, cancelled⟩) hc
  | begun call stage =>
    exact ⟨staged _ _ c, by simpa using List.mem_map_of_mem hc, turns_staged ids call (.begun stage) hc⟩
  | left call stage cancelled =>
    exact ⟨staged _ _ c, by simpa using List.mem_map_of_mem hc, turns_staged ids call (.left stage cancelled) hc⟩
  | told call stage =>
    exact ⟨staged _ _ c, by simpa using List.mem_map_of_mem hc, turns_staged ids call (.told stage) hc⟩
  | @finished id d key r outcome call stage =>
    obtain rfl := call?_id call
    refine ⟨settled d.id outcome c, by simpa using List.mem_map_of_mem hc, ?_⟩
    exact turns_settled ids (mem_of_call? call) (by rw [stage]; rfl) (by simp) (.inl rfl) hc
  | @cancelled id => exact ⟨flagged id c, by simpa using List.mem_map_of_mem hc, turns_flagged _ _ id c⟩

/-- A call that waits for nobody: it leads a job, or it has ended, and as cancelled only if it was. -/
inductive Stands (c : Call) : Prop where
  | leading {job : String × Request} (led : led? c.stage = some job)
  | ended {outcome : Outcome} (stage : c.stage = .ended outcome)
      (own : outcome = .error .cancelled → c.isCancelled = true)

/-- A call that joined the job of a leader: it waits, or it has the outcome of the leader, unless it was cancelled. -/
inductive Follows (s : Service) (leader : Nat) (c : Call) : Prop where
  | waiting (stage : c.stage = .joined leader)
  | answered {outcome : Outcome} (stage : c.stage = .answered outcome) (shared : EndedWith s leader outcome)
  | ended {outcome : Outcome} (stage : c.stage = .ended outcome)
      (shared : c.isCancelled = true ∨ EndedWith s leader outcome)

theorem Stands.turn {s t : Service} {e : ServiceEvent} {c c' : Call} (h : Stands c)
    (ids : (s.calls.map Call.id).Nodup) (warranted : s.warrants e = true) (hc : c ∈ s.calls)
    (turn : Turns t e c c') : Stands c' := by
  cases turn with
  | stays => exact h
  | flagged =>
    cases h with
    | leading led => exact .leading led
    | ended stage own => exact .ended stage fun _ => rfl
  | begun stage => exact .leading rfl
  | ended led cause =>
    refine .ended rfl fun cancelled => ?_
    rcases cause with rfl | ⟨-, flag⟩
    · rw [cancelled, warrants, call?_of_mem ids hc] at warranted
      exact warranted
    · exact flag
  | answered stage | left stage | told stage =>
    cases h with
    | leading led => rw [stage] at led; cases led
    | ended stage' => rw [stage] at stage'; cases stage'

theorem Follows.turn {s t : Service} {leader : Nat} {e : ServiceEvent} {c c' : Call} (h : Follows s leader c)
    (lasting : ∀ outcome, EndedWith s leader outcome → EndedWith t leader outcome) (turn : Turns t e c c') :
    Follows t leader c' := by
  have stays : Follows t leader c := by
    cases h with
    | waiting stage => exact .waiting stage
    | answered stage shared => exact .answered stage (lasting _ shared)
    | ended stage shared => exact .ended stage (shared.imp_right (lasting _))
  cases turn with
  | stays => exact stays
  | flagged =>
    cases stays with
    | waiting stage => exact .waiting stage
    | answered stage shared => exact .answered stage shared
    | ended stage shared => exact .ended stage (.inl rfl)
  | begun stage =>
    cases h with
    | waiting stage' | answered stage' | ended stage' => rw [stage] at stage'; cases stage'
  | ended led =>
    cases h with
    | waiting stage' | answered stage' | ended stage' => rw [stage'] at led; cases led
  | answered stage final =>
    cases h with
    | waiting stage' =>
      obtain rfl := Stage.joined.inj (stage.symm.trans stage')
      exact .answered rfl final
    | answered stage' | ended stage' => rw [stage] at stage'; cases stage'
  | left stage cancelled => exact .ended rfl (.inl cancelled)
  | told stage =>
    cases h with
    | waiting stage' | ended stage' => rw [stage] at stage'; cases stage'
    | answered stage' shared =>
      obtain rfl := Stage.answered.inj (stage.symm.trans stage')
      refine .ended rfl ?_
      cases flag : c.isCancelled with
      | true => exact .inl rfl
      | false => exact .inr (by simpa using lasting _ shared)

/-- What is kept by every step from a call that is there is kept to the end of a run. -/
theorem lasts {w : Workshop} {P : Service → Call → Prop} {events more : List ServiceEvent}
    (distinct : Distinct (events ++ more)) (warranted : Warranted (start w) (events ++ more))
    (keeps : ∀ before e, Distinct (before ++ [e]) → (after w before).warrants e = true →
      ∀ c ∈ (after w before).calls, P (after w before) c →
        ∀ c', Turns (after w (before ++ [e])) e c c' → P (after w (before ++ [e])) c')
    {c : Call} (hc : c ∈ (after w events).calls) (h : P (after w events) c) :
    ∃ c' ∈ (after w (events ++ more)).calls, c'.id = c.id ∧ P (after w (events ++ more)) c' := by
  induction more using List.reverseRecOn with
  | nil => exact ⟨c, by simpa using hc, rfl, by simpa using h⟩
  | append_singleton more e ih =>
    rw [← List.append_assoc] at distinct warranted ⊢
    obtain ⟨earlier, here, -⟩ := warranted_append.mp warranted
    obtain ⟨d, hd, same, kept⟩ := ih distinct.of_append earlier
    obtain ⟨d', hd', turn⟩ := exists_turn (ids_nodup distinct.of_append) e hd
    rw [← after_concat] at hd' turn
    exact ⟨d', hd', turn.id_eq.trans same, keeps _ e distinct here d hd kept d' turn⟩

theorem ne_cancelled_of_inadmissible {s : Service} {r : Request} {e : Failure} (h : s.admissible r = .error e) :
    e ≠ .cancelled := by
  rintro rfl
  cases found : s.workshop.registry.find? r.compiler with
  | none => exact nomatch (admissible_of_find?_none found).symm.trans h
  | some entry =>
    cases here : entry.settings.isRemote with
    | true => exact nomatch (admissible_of_remote found here).symm.trans h
    | false => exact nomatch (admissible_of_local found here).symm.trans h

theorem ne_cancelled_of_invalid {w : Workshop} {r : Request} {e : Failure} (h : w.validate r = .error e) :
    e ≠ .cancelled := by
  rintro rfl
  by_cases good : w.screen.bad r.options = []
  · cases problem : Source.check r.source with
    | none => simp [Workshop.validate, good, problem] at h
    | some failure =>
      obtain rfl := Except.error.inj ((Workshop.validate_of_problem good problem).symm.trans h)
      cases Workshop.isValidation_of_check problem
  · cases (Workshop.validate_of_bad good).symm.trans h

namespace Submission
variable {w : Workshop} {events : List ServiceEvent} {sub : Submission}

def IsAlone (w : Workshop) (sub : Submission) : Prop :=
  ∀ leader, (sub.left w).leaderOf? sub.id = some leader → leader = sub.id

def Joined (w : Workshop) (sub : Submission) (leader : Nat) : Prop :=
  leader ≠ sub.id ∧ (sub.left w).leaderOf? sub.id = some leader

/-- A call that has just come in waits for nobody, or for a leader whose job is under way. -/
theorem alone_or_joined (w : Workshop) (distinct : Distinct (sub.before ++ [sub.event])) :
    ∃ c ∈ (sub.left w).calls, c.id = sub.id ∧ (sub.IsAlone w ∧ Stands c ∨
      ∃ leader, sub.Joined w leader ∧ c.stage = .joined leader ∧
        ∃ d ∈ (sub.left w).calls, d.id = leader ∧ Stands d) := by
  have coherent : Coherent (sub.met w) := coherent_after distinct.of_append
  have part {c : Call} (hc : c ∈ (sub.left w).calls) : (sub.left w).leaderOf? c.id = part? c :=
    leaderOf?_of_mem (ids_nodup distinct) hc
  have move := step_moves (sub.met w) sub.event
  rw [← left_eq] at move
  unfold IsAlone Joined
  generalize sub.left w = t at move part
  obtain ⟨before, id, r⟩ := sub
  have new {s : Service} {c : Call} : c ∈ (s.calls ++ [c]) := List.mem_append_right _ (List.mem_singleton_self c)
  cases move with
  | idle known => cases known
  | @refused _ _ e inadmissible =>
    refine ⟨⟨id, .ended (.error e), false⟩, new, rfl, .inl ⟨fun leader led => ?_, .ended rfl fun same => ?_⟩⟩
    · exact nomatch (part new).symm.trans led
    · exact absurd (Except.error.inj same) (ne_cancelled_of_inadmissible inadmissible)
  | @found _ _ _ entry admissible stored =>
    refine ⟨⟨id, .ended (.ok entry.result), false⟩, new, rfl, .inl ⟨fun leader led => ?_, .ended rfl nofun⟩⟩
    exact nomatch (part new).symm.trans led
  | @joined _ _ _ leader admissible unstored underWay =>
    obtain ⟨d, hd, rfl, r', led⟩ := (coherent.table _ _).mp (mem_of_leader? underWay)
    exact ⟨⟨id, .joined d.id, false⟩, new, rfl, .inr ⟨d.id, ⟨ne_of_submitted distinct hd, part new⟩, rfl, d,
      List.mem_append_left _ hd, rfl, .leading led⟩⟩
  | @invalid _ _ _ e admissible unstored notUnderWay bad =>
    refine ⟨⟨id, .ended (.error e), false⟩, new, rfl, .inl ⟨fun leader led => ?_, .ended rfl fun same => ?_⟩⟩
    · exact nomatch (part new).symm.trans led
    · exact absurd (Except.error.inj same) (ne_cancelled_of_invalid bad)
  | @queued _ _ r' =>
    refine ⟨⟨id, .queued r'.key r', false⟩, new, rfl, .inl ⟨fun leader led => ?_, .leading rfl⟩⟩
    exact Option.some.inj (led.symm.trans (part new))
  | @led _ _ r' =>
    refine ⟨⟨id, .running r'.key r', false⟩, new, rfl, .inl ⟨fun leader led => ?_, .leading rfl⟩⟩
    exact Option.some.inj (led.symm.trans (part new))

theorem stands_or_follows (distinct : Distinct events) (warranted : Warranted (start w) events)
    (came : sub.IsIn events) :
    (sub.IsAlone w ∧ ∃ c ∈ (after w events).calls, c.id = sub.id ∧ Stands c) ∨
      ∃ leader, sub.Joined w leader ∧
        (∃ c ∈ (after w events).calls, c.id = sub.id ∧ Follows (after w events) leader c) ∧
        ∃ d ∈ (after w events).calls, d.id = leader ∧ Stands d := by
  obtain ⟨c, hc, hid, alone | ⟨leader, joined, stage, d, hd, rfl, stands⟩⟩ :=
    alone_or_joined w (distinct.of_prefix came)
  all_goals obtain ⟨more, rfl⟩ := came
  all_goals
    have standing {c : Call} := lasts (w := w) (P := fun _ => Stands) (c := c) distinct warranted
      fun _ _ known here _ hc stands _ turn => stands.turn (ids_nodup known.of_append) here hc turn
  · obtain ⟨c', hc', same, stands⟩ := standing hc alone.2
    exact .inl ⟨alone.1, c', hc', same.trans hid, stands⟩
  · obtain ⟨d', hd', same, stands⟩ := standing hd stands
    obtain ⟨c', hc', same', follows⟩ := lasts (P := fun s => Follows s d.id) distinct warranted
      (fun before e known _ c _ follows c' turn =>
        follows.turn (fun _ final => final.after_append known) turn) hc (.waiting stage)
    exact .inr ⟨d.id, joined, ⟨c', hc', same'.trans hid, follows⟩, d', hd', same, stands⟩

end Submission

/-- Three calls for one job. The last of them leaves it, which is nothing to the others. -/
def leavingJoiner : List ServiceEvent :=
  [.submit 0 plainRequest, .submit 1 binaryRequest, .submit 2 plainRequest, .cancel 2, .resume 2,
    .finish 0 (.error (.fault "stopped")), .resume 1]

def cancelledLeader : List ServiceEvent :=
  [.submit 0 plainRequest, .submit 1 binaryRequest, .cancel 0, .finish 0 (.error .cancelled), .resume 1]

end AsmScope.Service
