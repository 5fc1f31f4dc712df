import AsmScope.Proofs.Listing.Filtering
import AsmScope.Proofs.Listing.Places

/-! The walk over assembler text, told line by line. What is known at a line depends on the lines above it, and there
on the last one of some sort and on those since. So the shown lines are those kept, each by what stands above it. -/

namespace AsmScope.Listing
open AsmScope.Text

section Latest
variable {α : Type} {p q : α → Prop} {xs since since' : List α} {x y : α}

/-- The last element of a sort, and the elements since. -/
def Latest (p : α → Prop) (xs : List α) (x : α) (since : List α) : Prop :=
  ∃ above, xs = above ++ x :: since ∧ p x ∧ ∀ y ∈ since, ¬ p y

theorem not_latest_nil : ¬ Latest p [] x since := by
  rintro ⟨above, same, -⟩
  simp at same

theorem latest_concat :
    Latest p (xs ++ [y]) x since ↔
      p y ∧ x = y ∧ since = [] ∨ ¬ p y ∧ ∃ before, since = before ++ [y] ∧ Latest p xs x before := by
  constructor
  · rintro ⟨above, same, here, later⟩
    rcases List.eq_nil_or_concat since with rfl | ⟨before, z, rfl⟩
    · obtain ⟨-, last⟩ := List.append_inj' same rfl
      obtain rfl := (List.cons.inj last).1
      exact .inl ⟨here, rfl, rfl⟩
    · rw [List.concat_eq_append, ← List.cons_append, ← List.append_assoc] at same
      obtain ⟨rfl, last⟩ := List.append_inj' same rfl
      obtain rfl := (List.cons.inj last).1
      rw [List.concat_eq_append] at later
      refine .inr ⟨later y (by simp), before, List.concat_eq_append, above, rfl, here, fun z hz => ?_⟩
      exact later z (List.mem_append_left _ hz)
  · rintro (⟨here, rfl, rfl⟩ | ⟨other, before, rfl, above, rfl, here, later⟩)
    · exact ⟨xs, rfl, here, by simp⟩
    · refine ⟨above, by simp, here, fun z hz => ?_⟩
      rcases List.mem_append.mp hz with hz | hz
      · exact later z hz
      · exact List.mem_singleton.mp hz ▸ other

theorem latest_concat_of_pos (here : p y) : Latest p (xs ++ [y]) x since ↔ x = y ∧ since = [] := by
  simp [latest_concat, here]

theorem latest_concat_of_neg (other : ¬ p y) :
    Latest p (xs ++ [y]) x since ↔ ∃ before, since = before ++ [y] ∧ Latest p xs x before := by
  simp [latest_concat, other]

theorem Latest.unique (h : Latest p xs x since) (h' : Latest p xs y since') : x = y ∧ since = since' := by
  induction xs using List.reverseRecOn generalizing since since' with
  | nil => exact absurd h not_latest_nil
  | append_singleton xs z ih =>
    by_cases here : p z
    · obtain ⟨rfl, rfl⟩ := (latest_concat_of_pos here).mp h
      obtain ⟨rfl, rfl⟩ := (latest_concat_of_pos here).mp h'
      exact ⟨rfl, rfl⟩
    · obtain ⟨before, rfl, earlier⟩ := (latest_concat_of_neg here).mp h
      obtain ⟨before', rfl, earlier'⟩ := (latest_concat_of_neg here).mp h'
      obtain ⟨rfl, rfl⟩ := ih earlier earlier'
      exact ⟨rfl, rfl⟩

section Concat
variable {Q : α → List α → Prop}

theorem not_exists_latest_nil : ¬ ∃ x since, Latest p [] x since ∧ Q x since := by
  rintro ⟨x, since, last, -⟩
  exact not_latest_nil last

theorem exists_latest_concat_of_pos (here : p y) :
    (∃ x since, Latest p (xs ++ [y]) x since ∧ Q x since) ↔ Q y [] := by
  constructor
  · rintro ⟨x, since, last, holds⟩
    obtain ⟨rfl, rfl⟩ := (latest_concat_of_pos here).mp last
    exact holds
  · intro holds
    exact ⟨y, [], (latest_concat_of_pos here).mpr ⟨rfl, rfl⟩, holds⟩

theorem exists_latest_concat_of_neg (other : ¬ p y) :
    (∃ x since, Latest p (xs ++ [y]) x since ∧ Q x since) ↔ ∃ x since, Latest p xs x since ∧ Q x (since ++ [y]) := by
  constructor
  · rintro ⟨x, since, last, holds⟩
    obtain ⟨before, rfl, earlier⟩ := (latest_concat_of_neg other).mp last
    exact ⟨x, before, earlier, holds⟩
  · rintro ⟨x, since, last, holds⟩
    exact ⟨x, since ++ [y], (latest_concat_of_neg other).mpr ⟨since, rfl, last⟩, holds⟩

end Concat

theorem exists_latest (there : x ∈ xs) (here : p x) : ∃ y since, Latest p xs y since := by
  induction xs using List.reverseRecOn with
  | nil => cases there
  | append_singleton xs z ih =>
    by_cases last : p z
    · exact ⟨z, [], (latest_concat_of_pos last).mpr ⟨rfl, rfl⟩⟩
    · rcases List.mem_append.mp there with there | there
      · obtain ⟨y, since, h⟩ := ih there
        exact ⟨y, since ++ [z], (latest_concat_of_neg last).mpr ⟨since, rfl, h⟩⟩
      · exact absurd (List.mem_singleton.mp there ▸ here) last

theorem Latest.mem (h : Latest p xs x since) : x ∈ xs := by
  obtain ⟨above, rfl, -⟩ := h
  simp

theorem Latest.narrow (h : Latest p xs x since) (here : q x) (wider : ∀ y, q y → p y) : Latest q xs x since := by
  obtain ⟨above, same, -, later⟩ := h
  exact ⟨above, same, here, fun y hy found => later y hy (wider y found)⟩

end Latest

structure Position where
  above : List (List Char)
  line : List Char

def Position.reading (p : Position) : List (List Char) := p.above ++ [p.line]

def positionsFrom : List (List Char) → List (List Char) → List Position
  | _, [] => []
  | above, line :: rest => ⟨above, line⟩ :: positionsFrom (above ++ [line]) rest

def positions (lines : List (List Char)) : List Position := positionsFrom [] lines

theorem mem_positionsFrom {above lines : List (List Char)} {p : Position} :
    p ∈ positionsFrom above lines ↔
      ∃ before below, lines = before ++ p.line :: below ∧ p.above = above ++ before := by
  induction lines generalizing above with
  | nil => simp [positionsFrom]
  | cons line rest ih =>
    rw [positionsFrom, List.mem_cons, ih]
    constructor
    · rintro (rfl | ⟨before, below, rfl, same⟩)
      · exact ⟨[], rest, rfl, (List.append_nil above).symm⟩
      · exact ⟨line :: before, below, rfl, by rw [same, List.append_assoc]; rfl⟩
    · rintro ⟨before, below, split, same⟩
      cases before with
      | nil =>
        obtain ⟨rfl, rfl⟩ := List.cons.inj split
        rw [List.append_nil] at same
        exact .inl (by rw [← same])
      | cons first before =>
        obtain ⟨rfl, rfl⟩ := List.cons.inj split
        exact .inr ⟨before, below, rfl, by rw [same, List.append_assoc]; rfl⟩

theorem mem_positions {lines : List (List Char)} {p : Position} :
    p ∈ positions lines ↔ ∃ below, lines = p.above ++ p.line :: below := by
  simp [positions, mem_positionsFrom]

section Shown
variable {f : Filters} {t : Tables}

def Position.standing (t : Tables) (p : Position) : Standing := Standing.initial.after t p.reading

def Position.isKept (f : Filters) (t : Tables) (p : Position) : Bool :=
  Listing.isKept f t (p.standing t) (classify p.line) p.line

def Position.shown (t : Tables) (p : Position) : Line := shownLine (p.standing t) (classify p.line) p.line

theorem Standing.after_concat (s : Standing) (t : Tables) (lines : List (List Char)) (line : List Char) :
    s.after t (lines ++ [line]) = (s.after t lines).next t line := by
  simp [Standing.after]

theorem textualFrom_after (above lines : List (List Char)) :
    textualFrom f t (Standing.initial.after t above) lines =
      ((positionsFrom above lines).filter (Position.isKept f t)).map (Position.shown t) := by
  induction lines generalizing above with
  | nil => rfl
  | cons line rest ih =>
    have here : (Standing.initial.after t above).next t line = Position.standing t ⟨above, line⟩ :=
      (Standing.after_concat ..).symm
    have later : textualFrom f t (Position.standing t ⟨above, line⟩) rest = _ := ih (above ++ [line])
    rw [textualFrom_cons, here, later, positionsFrom]
    by_cases kept : Position.isKept f t ⟨above, line⟩ = true
    · rw [List.filter_cons_of_pos kept]
      exact congrArg (· ++ _) (if_pos kept)
    · rw [List.filter_cons_of_neg kept]
      exact congrArg (· ++ _) (if_neg kept)

theorem textual_eq (primary : Option String) (f : Filters) (lines : List (List Char)) :
    textual primary f lines =
      ((positions lines).filter (Position.isKept f (tablesOf primary f lines))).map
        (Position.shown (tablesOf primary f lines)) :=
  textualFrom_after [] lines

/-- A listing is cut to its greatest number of lines, and trimmed if that is asked for. -/
def finished (view : View) (f : Filters) (found : List Line) : List Line :=
  if f.trim then trimLines (limited view found) else limited view found

theorem read_eq_finished {view : View} {text : String} {lines : List (List Char)}
    (cut : listingLines text.toList = lines) (filled : text ≠ "") (textual : f.binary = false)
    (several : isNotice lines = false) (legible : IsLegible f text) :
    read view f text =
      .ok (finished view f (((positions lines).filter (Position.isKept f (tablesOf view.primary f lines))).map
        (Position.shown (tablesOf view.primary f lines)))) := by
  rw [read_of_legible legible, ← textual_eq, ofText, if_neg (by simpa using filled), cut]
  simp [ofLines, several, annotated, textual, finished]

end Shown
end AsmScope.Listing
