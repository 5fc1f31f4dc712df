import AsmScope.Tool.Supervision

/-! When a tool counts as timed out: exactly when the deadline came while its supervision was still going on. No
other event sets the mark or clears it. -/

namespace AsmScope
namespace Supervision

@[simp] theorem kill_timedOut (s : Supervision) : s.kill.timedOut = s.timedOut := by
  unfold kill
  split <;> rfl

@[simp] theorem settle_timedOut (s : Supervision) : s.settle.timedOut = s.timedOut := by
  unfold settle
  split <;> rfl

@[simp] theorem feed_timedOut (s : Supervision) (stream : Stream) (octets : Text.Octets) :
    (s.feed stream octets).timedOut = s.timedOut := by
  cases stream with
  | out =>
    simp only [feed]
    split
    · split
      · exact kill_timedOut _
      · rfl
    · rfl
  | err =>
    simp only [feed]
    split
    · split
      · exact kill_timedOut _
      · rfl
    · rfl

theorem step_timedOut (s : Supervision) (e : ToolEvent) :
    (s.step e).timedOut = true ↔ s.timedOut = true ∨ s.ended = none ∧ e = .deadline := by
  cases going : s.ended with
  | some how => simp [step, going]
  | none =>
    simp only [step, going, Option.isSome_none, Bool.false_eq_true, if_false, true_and]
    cases e with
    | deadline =>
      simp only
      split
      · rename_i before
        simp [before]
      · simp
    | closed stream => cases stream <;> simp
    | _ => simp

theorem run_cons (s : Supervision) (e : ToolEvent) (events : List ToolEvent) :
    s.run (e :: events) = (s.step e).run events := rfl

theorem run_timedOut (s : Supervision) (events : List ToolEvent) :
    (s.run events).timedOut = true ↔
      s.timedOut = true ∨ ∃ before after, events = before ++ .deadline :: after ∧ (s.run before).ended = none := by
  induction events generalizing s with
  | nil => simp [run]
  | cons e events ih =>
    rw [run_cons, ih, step_timedOut]
    constructor
    · rintro ((late | ⟨going, rfl⟩) | ⟨before, after, rfl, going⟩)
      · exact .inl late
      · exact .inr ⟨[], events, rfl, going⟩
      · exact .inr ⟨e :: before, after, rfl, going⟩
    · rintro (late | ⟨before, after, same, going⟩)
      · exact .inl (.inl late)
      · cases before with
        | nil =>
          obtain ⟨rfl, -⟩ := List.cons.inj same
          exact .inl (.inr ⟨going, rfl⟩)
        | cons d before =>
          obtain ⟨rfl, rfl⟩ := List.cons.inj same
          exact .inr ⟨before, after, rfl, going⟩

end Supervision

/-- A tool that was started, with all that happened until its supervision returned. It may have exited before
anything was read, and may have no streams. -/
structure ToolRun where
  launch : Launch
  streams : Bool
  code : Option Int
  events : List ToolEvent
  returned : ((Supervision.start launch.budget.maxOutput streams code).run events).ended = some .returned

namespace ToolRun

def start (t : ToolRun) : Supervision := .start t.launch.budget.maxOutput t.streams t.code

def output (t : ToolRun) : ToolOutput := (t.start.run t.events).output

def HitsDeadline (t : ToolRun) : Prop :=
  ∃ before after, t.events = before ++ .deadline :: after ∧ (t.start.run before).ended = none

theorem okToCache_iff (t : ToolRun) : t.output.okToCache = false ↔ t.HitsDeadline := by
  have timedOut : t.output.timedOut = true ↔ t.HitsDeadline := by
    rw [output, Supervision.output, Supervision.run_timedOut, HitsDeadline]
    simp [start, Supervision.start]
  rw [ToolOutput.okToCache, Bool.not_eq_false', timedOut]

end ToolRun
end AsmScope
