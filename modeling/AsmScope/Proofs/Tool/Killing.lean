import AsmScope.Proofs.Tool.Capture
import AsmScope.Proofs.Tool.Deadline
import Mathlib.Data.List.Induction

/-! Tools that are left running. A supervision that returns has seen the tool exit. One that is cancelled sends no
kill of its own, so the tool is left running just if nothing happened before that ends it or has it killed: all that
came was output within the limits. -/

namespace AsmScope
open Text

namespace ToolEvent

def isOutput : ToolEvent → Bool
  | .chunk _ _ | .closed _ => true
  | _ => false

def octetsOn (stream : Stream) : ToolEvent → Octets
  | .chunk s octets => if s = stream then octets else []
  | _ => []

end ToolEvent

namespace Supervision

def beforeClosed (stream : Stream) : List ToolEvent → Octets
  | [] => []
  | e :: rest => if e = .closed stream then [] else e.octetsOn stream ++ beforeClosed stream rest

/-- The octets that a supervision is given. A tool may have no streams. -/
def received (streams : Bool) (stream : Stream) (events : List ToolEvent) : Octets :=
  if streams then beforeClosed stream events else []

/-- All that happened was output, and not too much of it on either stream. -/
structure IsCalm (limit : Nat) (streams : Bool) (events : List ToolEvent) : Prop where
  output : ∀ e ∈ events, e.isOutput = true
  within : ∀ stream, (received streams stream events).length ≤ limit

/-- The tool goes on, and nothing was sent to end it. -/
structure LeavesRunning (s : Supervision) : Prop where
  code : s.code = none
  killSent : s.killSent = false

def capture (s : Supervision) : Stream → Capture
  | .out => s.out
  | .err => s.err

def isOpen (s : Supervision) : Stream → Bool
  | .out => s.outOpen
  | .err => s.errOpen

def keep (s : Supervision) (stream : Stream) (c : Capture) : Supervision :=
  match stream with
  | .out => { s with out := c }
  | .err => { s with err := c }

def shut (s : Supervision) (stream : Stream) : Supervision :=
  match stream with
  | .out => { s with outOpen := false }
  | .err => { s with errOpen := false }

section Steps
variable {s : Supervision} {stream other : Stream} {octets : Octets} {c : Capture}

@[simp] theorem keep_ended : (s.keep stream c).ended = s.ended := by cases stream <;> rfl

@[simp] theorem keep_isOpen : (s.keep stream c).isOpen = s.isOpen := by cases stream <;> rfl

theorem keep_capture : (s.keep stream c).capture other = if other = stream then c else s.capture other := by
  cases stream <;> cases other <;> rfl

@[simp] theorem keep_leavesRunning : (s.keep stream c).LeavesRunning ↔ s.LeavesRunning := by
  cases stream <;> exact ⟨fun ⟨code, sent⟩ => ⟨code, sent⟩, fun ⟨code, sent⟩ => ⟨code, sent⟩⟩

@[simp] theorem shut_ended : (s.shut stream).ended = s.ended := by cases stream <;> rfl

@[simp] theorem shut_code : (s.shut stream).code = s.code := by cases stream <;> rfl

@[simp] theorem shut_timedOut : (s.shut stream).timedOut = s.timedOut := by cases stream <;> rfl

@[simp] theorem shut_leavesRunning : (s.shut stream).LeavesRunning ↔ s.LeavesRunning := by
  cases stream <;> exact ⟨fun ⟨code, sent⟩ => ⟨code, sent⟩, fun ⟨code, sent⟩ => ⟨code, sent⟩⟩

@[simp] theorem shut_capture : (s.shut stream).capture = s.capture := by cases stream <;> rfl

theorem shut_isOpen : (s.shut stream).isOpen other = (s.isOpen other && other != stream) := by
  cases stream <;> cases other <;> simp [shut, isOpen]

@[simp] theorem kill_ended : s.kill.ended = s.ended := by
  unfold kill
  split <;> rfl

@[simp] theorem kill_isOpen : s.kill.isOpen = s.isOpen := by
  unfold kill
  split <;> rfl

@[simp] theorem kill_capture : s.kill.capture = s.capture := by
  unfold kill
  split <;> rfl

theorem not_leavesRunning_kill : ¬ s.kill.LeavesRunning := by
  rintro ⟨code, sent⟩
  unfold kill at code sent
  split at code
  · rename_i exited
    rw [code] at exited
    cases exited
  · rename_i going
    rw [if_neg going] at sent
    cases sent

theorem settle_of_code (going : s.code = none) : s.settle = s := by
  simp only [settle, isComplete, going, Option.isSome_none, Bool.false_and, Bool.false_eq_true, if_false]

theorem feed_eq : s.feed stream octets =
    if s.isOpen stream then
      if ((s.capture stream).feed octets).1 then (s.keep stream ((s.capture stream).feed octets).2).kill
      else s.keep stream ((s.capture stream).feed octets).2
    else s := by
  cases stream <;> rfl

theorem step_of_going {e : ToolEvent} (going : s.ended = none) :
    s.step e = match e with
      | .chunk stream octets => s.feed stream octets
      | .closed stream => (s.shut stream).settle
      | .exited code => settle { s with code := s.code.or (some code) }
      | .deadline => if s.timedOut then s else { s.kill with timedOut := true }
      | .cancelled => { s with ended := some .cancelled } := by
  have running : ¬ s.ended.isSome = true := by simp [going]
  unfold step
  rw [if_neg running]
  cases e with
  | closed stream => cases stream <;> rfl
  | _ => rfl

theorem feed_capture : (s.feed stream octets).capture other =
    if other = stream ∧ s.isOpen stream = true then ((s.capture stream).feed octets).2 else s.capture other := by
  rw [feed_eq]
  cases s.isOpen stream with
  | false => simp
  | true =>
    simp only [if_true, and_true]
    split
    · rw [kill_capture, keep_capture]
    · exact keep_capture

@[simp] theorem feed_isOpen : (s.feed stream octets).isOpen = s.isOpen := by
  rw [feed_eq]
  split
  · split
    · rw [kill_isOpen, keep_isOpen]
    · exact keep_isOpen
  · rfl

@[simp] theorem feed_ended : (s.feed stream octets).ended = s.ended := by
  rw [feed_eq]
  split
  · split
    · rw [kill_ended, keep_ended]
    · exact keep_ended
  · rfl

theorem feed_leavesRunning : (s.feed stream octets).LeavesRunning ↔
    s.LeavesRunning ∧ ¬ (s.isOpen stream = true ∧ ((s.capture stream).feed octets).1 = true) := by
  rw [feed_eq]
  cases s.isOpen stream with
  | false => simp
  | true =>
    cases ((s.capture stream).feed octets).1 with
    | false => simp
    | true => simp [not_leavesRunning_kill]

theorem step_of_ended {e : ToolEvent} (finished : s.ended.isSome = true) : s.step e = s := by
  simp only [step, finished, if_true]

theorem ended_of_step {e : ToolEvent} (going : (s.step e).ended = none) : s.ended = none := by
  cases before : s.ended with
  | none => rfl
  | some how =>
    rw [step_of_ended (Option.isSome_of_eq_some before), before] at going
    cases going

theorem run_of_ended {events : List ToolEvent} (finished : s.ended.isSome = true) : s.run events = s := by
  induction events with
  | nil => rfl
  | cons e events ih => rw [run_cons, step_of_ended finished, ih]

theorem run_concat (s : Supervision) (events : List ToolEvent) (e : ToolEvent) :
    s.run (events ++ [e]) = (s.run events).step e := List.foldl_concat ..

theorem run_append (s : Supervision) (events more : List ToolEvent) :
    s.run (events ++ more) = (s.run events).run more := List.foldl_append

end Steps

theorem step_ended {s : Supervision} {e : ToolEvent} {how : SupervisionEnd} (going : s.ended = none)
    (finished : (s.step e).ended = some how) :
    how = .returned ∧ (s.step e).code.isSome = true ∨ how = .cancelled ∧ e = .cancelled := by
  have settled {t : Supervision} (running : t.ended = none) (finished : t.settle.ended = some how) :
      how = .returned ∧ t.settle.code.isSome = true := by
    unfold settle at finished ⊢
    split at finished
    · rename_i complete
      rw [if_pos complete]
      simp only [isComplete, Bool.and_eq_true] at complete
      exact ⟨(Option.some.inj finished).symm, complete.1.1⟩
    · rw [running] at finished
      cases finished
  rw [step_of_going going] at finished ⊢
  cases e with
  | chunk stream octets =>
    rw [feed_ended, going] at finished
    cases finished
  | closed stream => exact .inl (settled (shut_ended.trans going) finished)
  | exited code => exact .inl (settled going finished)
  | deadline =>
    simp only at finished
    split at finished
    · rw [going] at finished
      cases finished
    · rw [kill_ended, going] at finished
      cases finished
  | cancelled => exact .inr ⟨(Option.some.inj finished).symm, rfl⟩

section Output
variable {limit : Nat} {streams : Bool} {stream : Stream} {events : List ToolEvent} {e : ToolEvent}

@[simp] theorem received_nil : received streams stream [] = [] := by simp [received, beforeClosed]

theorem beforeClosed_concat : beforeClosed stream (events ++ [e]) =
    beforeClosed stream events ++ (if .closed stream ∈ events then [] else e.octetsOn stream) := by
  induction events with
  | nil =>
    by_cases shut : e = .closed stream
    · simp [beforeClosed, shut, ToolEvent.octetsOn]
    · simp [beforeClosed, shut]
  | cons d events ih =>
    by_cases shut : d = .closed stream
    · simp [beforeClosed, shut]
    · simp [beforeClosed, shut, ih, Ne.symm shut]

theorem received_concat : received streams stream (events ++ [e]) = received streams stream events ++
    (if streams = true ∧ .closed stream ∉ events then e.octetsOn stream else []) := by
  unfold received
  cases streams with
  | false => simp
  | true =>
    rw [if_pos rfl, if_pos rfl, beforeClosed_concat]
    by_cases shut : .closed stream ∈ events <;> simp [shut]

theorem isCalm_concat_iff : IsCalm limit streams (events ++ [e]) ↔ IsCalm limit streams events ∧
    e.isOutput = true ∧ ∀ stream, (received streams stream (events ++ [e])).length ≤ limit := by
  constructor
  · rintro ⟨output, within⟩
    refine ⟨⟨fun d there => output d (List.mem_append_left _ there), fun stream => ?_⟩,
      output e (List.mem_append_right _ (List.mem_singleton_self e)), within⟩
    have more := within stream
    rw [received_concat, List.length_append] at more
    omega
  · rintro ⟨calm, last, within⟩
    refine ⟨fun d there => ?_, within⟩
    rcases List.mem_append.mp there with before | now
    · exact calm.output d before
    · rwa [List.mem_singleton.mp now]

/-- The state of a supervision that goes on, told by the events so far. -/
structure Follows (limit : Nat) (streams : Bool) (code : Option Int) (events : List ToolEvent) (s : Supervision) :
    Prop where
  capture : ∀ stream, s.capture stream = .ofOctets limit (received streams stream events)
  isOpen : ∀ stream, s.isOpen stream = true ↔ streams = true ∧ .closed stream ∉ events
  timedOut : s.timedOut = true → .deadline ∈ events
  leavesRunning : s.LeavesRunning ↔ code = none ∧ IsCalm limit streams events

variable {code : Option Int} {s : Supervision}

theorem follows_start : Follows limit streams code [] (start limit streams code) where
  capture stream := by
    rw [received_nil, Capture.ofOctets_nil]
    cases stream <;> rfl
  isOpen stream := by
    cases stream <;> simp [isOpen, start]
  timedOut late := absurd late Bool.false_ne_true
  leavesRunning := by
    refine ⟨fun running => ⟨running.code, fun e none => (List.not_mem_nil none).elim, fun stream => ?_⟩,
      fun running => ⟨running.1, rfl⟩⟩
    rw [received_nil]
    exact limit.zero_le

namespace Follows

theorem chunk (h : Follows limit streams code events s) (stream : Stream) (octets : Octets) :
    Follows limit streams code (events ++ [.chunk stream octets]) (s.feed stream octets) where
  capture other := by
    rw [feed_capture, received_concat]
    by_cases taken : other = stream ∧ s.isOpen stream = true
    · obtain ⟨rfl, opened⟩ := taken
      rw [if_pos ⟨rfl, opened⟩, if_pos ((h.isOpen other).mp opened), h.capture, Capture.feed_ofOctets]
      simp only [ToolEvent.octetsOn, if_true]
    · have nothing : (if streams = true ∧ .closed other ∉ events then (ToolEvent.chunk stream octets).octetsOn other
          else []) = [] := by
        split
        · rename_i opened
          have elsewhere : stream ≠ other := by
            rintro rfl
            exact taken ⟨rfl, (h.isOpen stream).mpr opened⟩
          simp only [ToolEvent.octetsOn, elsewhere, if_false]
        · rfl
      rw [if_neg taken, nothing, List.append_nil, h.capture]
  isOpen other := by
    rw [feed_isOpen, h.isOpen]
    simp
  timedOut late := by
    rw [feed_timedOut] at late
    exact List.mem_append_left _ (h.timedOut late)
  leavesRunning := by
    rw [feed_leavesRunning, h.leavesRunning, isCalm_concat_iff, h.capture, Capture.feed_ofOctets, h.isOpen]
    constructor
    · rintro ⟨⟨going, calm⟩, fits⟩
      refine ⟨going, calm, rfl, fun other => ?_⟩
      have before := calm.within other
      rw [received_concat]
      split
      · rename_i opened
        by_cases same : stream = other
        · subst same
          have fits := mt Capture.crosses_iff.mpr fun crossed => fits ⟨opened, crossed⟩
          simp only [ToolEvent.octetsOn, if_true, List.length_append]
          omega
        · simpa only [ToolEvent.octetsOn, same, if_false, List.append_nil] using before
      · rwa [List.append_nil]
    · rintro ⟨going, calm, -, within⟩
      refine ⟨⟨going, calm⟩, fun ⟨opened, crossed⟩ => ?_⟩
      have below := within stream
      rw [received_concat, if_pos opened, List.length_append] at below
      simp only [ToolEvent.octetsOn, if_true] at below
      exact absurd (Capture.crosses_iff.mp crossed).2 (Nat.not_lt.mpr below)

theorem closed (h : Follows limit streams code events s) (stream : Stream) :
    Follows limit streams code (events ++ [.closed stream]) (s.shut stream) where
  capture other := by
    have nothing : (ToolEvent.closed stream).octetsOn other = [] := rfl
    rw [shut_capture, received_concat, nothing, ite_self, List.append_nil, h.capture]
  isOpen other := by
    rw [shut_isOpen, Bool.and_eq_true, h.isOpen]
    simp [and_assoc]
  timedOut late := List.mem_append_left _ (h.timedOut (shut_timedOut ▸ late))
  leavesRunning := by
    have same (other : Stream) : received streams other (events ++ [.closed stream]) = received streams other events := by
      rw [received_concat]
      simp [ToolEvent.octetsOn]
    rw [shut_leavesRunning, h.leavesRunning, isCalm_concat_iff]
    exact and_congr_right fun _ =>
      ⟨fun calm => ⟨calm, rfl, fun other => same other ▸ calm.within other⟩, fun ⟨calm, _⟩ => calm⟩

theorem interrupted (h : Follows limit streams code events s) {t : Supervision} (loud : e.isOutput = false)
    (captures : t.capture = s.capture) (opens : t.isOpen = s.isOpen)
    (late : t.timedOut = true → .deadline ∈ events ++ [e]) (ends : ¬ t.LeavesRunning) :
    Follows limit streams code (events ++ [e]) t where
  capture stream := by
    have nothing : e.octetsOn stream = [] := by
      cases e with
      | chunk other octets => cases loud
      | _ => rfl
    rw [captures, received_concat, nothing, ite_self, List.append_nil, h.capture]
  isOpen stream := by
    have other : e ≠ .closed stream := by
      rintro rfl
      cases loud
    rw [opens, h.isOpen]
    simp [other.symm]
  timedOut := late
  leavesRunning := by
    refine iff_of_false ends fun ⟨_, calm⟩ => ?_
    have quiet := (isCalm_concat_iff.mp calm).2.1
    rw [loud] at quiet
    cases quiet

theorem deadline (h : Follows limit streams code events s) :
    Follows limit streams code (events ++ [.deadline]) (if s.timedOut then s else { s.kill with timedOut := true }) := by
  have now : ToolEvent.deadline ∈ events ++ [.deadline] := List.mem_append_right _ (List.mem_singleton_self _)
  split
  · rename_i late
    refine h.interrupted rfl rfl rfl (fun _ => now) fun running => ?_
    have quiet := (h.leavesRunning.mp running).2.output _ (h.timedOut late)
    cases quiet
  · refine h.interrupted rfl kill_capture kill_isOpen (fun _ => now) fun ⟨code, sent⟩ => ?_
    exact not_leavesRunning_kill ⟨code, sent⟩

theorem exited (h : Follows limit streams code events s) (status : Int) :
    Follows limit streams code (events ++ [.exited status]) { s with code := s.code.or (some status) } := by
  refine h.interrupted rfl rfl rfl (fun late => List.mem_append_left _ (h.timedOut late)) ?_
  rintro ⟨none, -⟩
  cases given : s.code with
  | none => simp [given] at none
  | some code => simp [given] at none

end Follows

theorem settle_of_ended_none (going : s.settle.ended = none) : s.settle = s := by
  unfold settle at going ⊢
  split
  · rename_i complete
    rw [if_pos complete] at going
    cases going
  · rfl

theorem follows_run (going : ((start limit streams code).run events).ended = none) :
    Follows limit streams code events ((start limit streams code).run events) := by
  -- On the events from the last one: a supervision that goes on after it went on before it.
  induction events using List.reverseRecOn with
  | nil => exact follows_start
  | append_singleton events e ih =>
    rw [run_concat] at going ⊢
    have before := ended_of_step going
    have h := ih before
    rw [step_of_going before] at going ⊢
    cases e with
    | chunk stream octets => exact h.chunk stream octets
    | closed stream =>
      dsimp only at going ⊢
      rw [settle_of_ended_none going]
      exact h.closed stream
    | exited status =>
      dsimp only at going ⊢
      rw [settle_of_ended_none going]
      exact h.exited status
    | deadline => exact h.deadline
    | cancelled => cases going

theorem ended_of_isCalm (calm : IsCalm limit streams events) :
    ((start limit streams none).run events).ended = none := by
  induction events using List.reverseRecOn with
  | nil => rfl
  | append_singleton events e ih =>
    obtain ⟨calm, quiet, -⟩ := isCalm_concat_iff.mp calm
    have before := ih calm
    have running := (follows_run before).leavesRunning.mpr ⟨rfl, calm⟩
    rw [run_concat, step_of_going before]
    cases e with
    | chunk stream octets => exact feed_ended.trans before
    | closed stream =>
      dsimp only
      rw [settle_of_code (shut_code.trans running.code)]
      exact shut_ended.trans before
    | exited status => cases quiet
    | deadline => cases quiet
    | cancelled => cases quiet

end Output

theorem code_of_returned {limit : Nat} {streams : Bool} {code : Option Int} {events : List ToolEvent}
    (finished : ((start limit streams code).run events).ended = some .returned) :
    ((start limit streams code).run events).code.isSome = true := by
  induction events using List.reverseRecOn with
  | nil => cases finished
  | append_singleton events e ih =>
    rw [run_concat] at finished ⊢
    cases going : ((start limit streams code).run events).ended with
    | some how =>
      have before : ((start limit streams code).run events).ended.isSome = true := Option.isSome_of_eq_some going
      rw [step_of_ended before] at finished ⊢
      exact ih finished
    | none =>
      rcases step_ended going finished with ⟨-, exited⟩ | ⟨cancelled, -⟩
      · exact exited
      · cases cancelled

/-- The tool has exited when its supervision returns. A supervision that is over leaves the tool running just if it
was cancelled in a calm. -/
theorem leavesRunning_iff {limit : Nat} {streams : Bool} {code : Option Int} {events : List ToolEvent}
    (finished : ((start limit streams code).run events).ended.isSome = true) :
    (((start limit streams code).run events).ended = some .returned →
      ((start limit streams code).run events).code.isSome = true) ∧
    (((start limit streams code).run events).LeavesRunning ↔
      code = none ∧ ∃ before after, events = before ++ .cancelled :: after ∧ IsCalm limit streams before) := by
  refine ⟨code_of_returned, fun running => ?_, ?_⟩
  · induction events using List.reverseRecOn with
    | nil => cases finished
    | append_singleton events e ih =>
      rw [run_concat] at finished running
      cases going : ((start limit streams code).run events).ended with
      | some how =>
        -- The end came earlier, and with it the cancellation.
        have before : ((start limit streams code).run events).ended.isSome = true := Option.isSome_of_eq_some going
        rw [step_of_ended before] at running
        obtain ⟨none, first, rest, rfl, calm⟩ := ih before running
        exact ⟨none, first, rest ++ [e], by simp, calm⟩
      | none =>
        obtain ⟨how, finished⟩ := Option.isSome_iff_exists.mp finished
        rcases step_ended going finished with ⟨-, exited⟩ | ⟨-, rfl⟩
        · rw [running.code] at exited
          cases exited
        · rw [step_of_going going] at running
          obtain ⟨none, calm⟩ := (follows_run going).leavesRunning.mp ⟨running.code, running.killSent⟩
          exact ⟨none, events, [], rfl, calm⟩
  · rintro ⟨rfl, before, after, rfl, calm⟩
    have going := ended_of_isCalm calm
    obtain ⟨code, sent⟩ := (follows_run going).leavesRunning.mpr ⟨rfl, calm⟩
    rw [run_append, run_cons, step_of_going going, run_of_ended rfl]
    exact ⟨code, sent⟩

/-- A tool that has written something and closed one of its streams. -/
theorem leavesRunning_iff_outputFirst :
    ((start 10 true none).run [.chunk .out [104, 105], .closed .err, .cancelled, .deadline]).ended.isSome = true ∧
    ((start 10 true none).run [.chunk .out [104, 105], .closed .err, .cancelled, .deadline]).LeavesRunning := by
  have finished :
      ((start 10 true none).run [.chunk .out [104, 105], .closed .err, .cancelled, .deadline]).ended.isSome = true := by
    decide
  have calm : IsCalm 10 true [.chunk .out [104, 105], .closed .err] :=
    ⟨by decide, fun stream => by cases stream <;> decide⟩
  exact ⟨finished, (leavesRunning_iff finished).2.mpr ⟨rfl, _, [.deadline], rfl, calm⟩⟩

/-- A tool that is cancelled before it has done anything has not exited, and no kill is sent to it. -/
theorem tool_outlives_cancellation :
    ((start 5000 true none).run [.cancelled]).ended = some .cancelled ∧
    ((start 5000 true none).run [.cancelled]).code = none ∧
    ((start 5000 true none).run [.cancelled]).killSent = false := by
  decide

end Supervision
end AsmScope
