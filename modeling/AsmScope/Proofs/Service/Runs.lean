import AsmScope.Proofs.Service.Moves
import Mathlib.Data.List.Induction

/-! Runs of a service from its start. A number is used for one call only; which calls there are is then known
from the events alone. -/

namespace AsmScope.Service

def Distinct (events : List ServiceEvent) : Prop := (events.filterMap submitted?).Nodup

instance (events : List ServiceEvent) : Decidable (Distinct events) :=
  inferInstanceAs (Decidable (events.filterMap submitted?).Nodup)

def after (w : Workshop) (events : List ServiceEvent) : Service := (start w).run events

@[simp] theorem after_nil (w : Workshop) : after w [] = start w := rfl

theorem after_concat (w : Workshop) (events : List ServiceEvent) (e : ServiceEvent) :
    after w (events ++ [e]) = (after w events).step e := by
  simp only [after, run, List.foldl_append, List.foldl_cons, List.foldl_nil]

theorem Distinct.of_append {events more : List ServiceEvent} (h : Distinct (events ++ more)) : Distinct events := by
  rw [Distinct, List.filterMap_append] at h
  exact (List.nodup_append.mp h).1

theorem Distinct.of_prefix {before events : List ServiceEvent} (h : Distinct events) (initial : before <+: events) :
    Distinct before := by
  obtain ⟨more, rfl⟩ := initial
  exact h.of_append

/-- What holds at the start, and after every further event that brings no number twice, holds after any run. -/
theorem run_induction {P : List ServiceEvent → Prop} (base : P [])
    (further : ∀ events e, Distinct (events ++ [e]) → P events → P (events ++ [e]))
    (events : List ServiceEvent) (distinct : Distinct events) : P events := by
  induction events using List.reverseRecOn with
  | nil => exact base
  | append_singleton events e ih => exact further events e distinct (ih distinct.of_append)

theorem step_workshop (s : Service) (e : ServiceEvent) : (s.step e).workshop = s.workshop := by
  have move := step_moves s e
  generalize s.step e = t at move
  cases move <;> simp [addCall, setStage, enqueue, enter, takePermit, cancel]

@[simp] theorem after_workshop (w : Workshop) (events : List ServiceEvent) : (after w events).workshop = w := by
  induction events using List.reverseRecOn with
  | nil => rfl
  | append_singleton events e ih => rw [after_concat, step_workshop, ih]

/-- Calls are told apart by the numbers of the submissions, in the order in which they came. -/
theorem step_ids (s : Service) (e : ServiceEvent) :
    (s.step e).calls.map Call.id = s.calls.map Call.id ++ (submitted? e).toList := by
  have move := step_moves s e
  generalize s.step e = t at move
  cases move with
  | idle known => simp [known]
  | _ => simp [addCall, enqueue, enter, takePermit, submitted?, Function.comp_def]

theorem after_ids (w : Workshop) (events : List ServiceEvent) :
    (after w events).calls.map Call.id = events.filterMap submitted? := by
  induction events using List.reverseRecOn with
  | nil => rfl
  | append_singleton events e ih =>
    rw [after_concat, step_ids, ih, List.filterMap_append]
    cases h : submitted? e <;> simp [h]

theorem ids_nodup {w : Workshop} {events : List ServiceEvent} (distinct : Distinct events) :
    ((after w events).calls.map Call.id).Nodup := by
  rw [after_ids]
  exact distinct

theorem ne_of_submitted {w : Workshop} {events : List ServiceEvent} {id : Nat} {r : Request}
    (distinct : Distinct (events ++ [.submit id r])) {c : Call} (hc : c ∈ (after w events).calls) : c.id ≠ id := by
  rintro rfl
  have known := List.mem_map_of_mem (f := Call.id) hc
  rw [after_ids] at known
  rw [Distinct, List.filterMap_append] at distinct
  exact (List.nodup_append.mp distinct).2.2 _ known _ (by simp [submitted?]) rfl

/-- A small workshop for cases: one compiler that makes no binaries, and one that is elsewhere. -/
def smallWorkshop : Workshop where
  config := {}
  registry := .ofSettings
    [⟨"cc", "", some "/bin/cc", none, false, false, false, false, "", "", "-o", "-S", [], false⟩,
      ⟨"far", "", none, some "http://far", false, false, false, false, "", "", "-o", "-S", [], false⟩] {}
  screen := ⟨.empty, .char (.single '@')⟩
  stub := .never
  environment := []

def plainRequest : Request := ⟨"cc", "int x;", [], {}⟩

def binaryRequest : Request := { plainRequest with filters := { binary := true } }

end AsmScope.Service
