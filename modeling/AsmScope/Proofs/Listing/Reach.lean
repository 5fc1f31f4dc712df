import AsmScope.Proofs.Listing.Walk
import Mathlib.Logic.Function.Iterate

/-! Used labels as bounded reachability. Some names are used outright, by an instruction, by a declaration, or by a
directive that is shown. From a label one weak step leads to what its data refers to, and the used labels are the names
at most ten such steps away from those used outright. -/

namespace AsmScope.Listing

inductive Uses (hide : Bool) (line : List Char) (name : Name) : Prop where
  | declaration (visible : classify line ≠ .blank) (spoken : classify line ≠ .comment)
    (declares : declared? line = some name)
  | instruction (kind : classify line = .instruction) (opcode : hasOpcode line = true)
    (refers : name ∈ references (afterLabel line))
  | directive (kind : classify line = .directive) (shown : hide = false) (refers : name ∈ references (afterLabel line))

/-- A line that is neither blank nor a comment and begins with the label. -/
structure Heads (owner : Name) (line : List Char) : Prop where
  visible : classify line ≠ .blank
  spoken : classify line ≠ .comment
  label : label? line = some owner

def IsHead (line : List Char) : Prop := ∃ owner, Heads owner line

instance (line : List Char) : Decidable (IsHead line) :=
  decidable_of_iff (classify line ≠ .blank ∧ classify line ≠ .comment ∧ (label? line).isSome = true)
    ⟨fun ⟨visible, spoken, named⟩ => (Option.isSome_iff_exists.mp named).imp fun _ label => ⟨visible, spoken, label⟩,
      fun ⟨_, head⟩ => ⟨head.visible, head.spoken, Option.isSome_iff_exists.mpr ⟨_, head.label⟩⟩⟩

def Owns (owner : Name) (lines : List (List Char)) : Prop :=
  ∃ head since, Latest IsHead lines head since ∧ Heads owner head

def RefersWeakly (lines : List (List Char)) (owner name : Name) : Prop :=
  ∃ p ∈ positions lines, classify p.line = .data ∧ Owns owner p.reading ∧ name ∈ references (afterLabel p.line)

/-- What is reached from the start in so many steps. -/
inductive ReachedIn (start : Name → Prop) (step : Name → Name → Prop) : Nat → Name → Prop where
  | start {name : Name} (here : start name) : ReachedIn start step 0 name
  | step {n : Nat} {owner name : Name} (reached : ReachedIn start step n owner) (leads : step owner name) :
    ReachedIn start step (n + 1) name

section Spread
variable {weak : List (Name × Name)} {used : List Name} {name : Name} {n : Nat}

theorem spread_eq_iterate (weak : List (Name × Name)) (n : Nat) (used : List Name) :
    spread weak n used = (fun used => used ++ fresh weak used)^[n] used := by
  induction n generalizing used with
  | zero => rfl
  | succ n ih => rw [spread_succ, ih, Function.iterate_succ_apply]

theorem mem_spread_succ :
    name ∈ spread weak (n + 1) used ↔
      name ∈ spread weak n used ∨ ∃ owner ∈ spread weak n used, (owner, name) ∈ weak := by
  rw [spread_eq_iterate, Function.iterate_succ_apply', ← spread_eq_iterate, List.mem_append, mem_fresh]
  by_cases already : name ∈ spread weak n used
  · simp [already]
  · simp [already]

theorem ReachedIn.mem_spread (h : ReachedIn (· ∈ used) (fun owner name => (owner, name) ∈ weak) n name) {m : Nat}
    (soon : n ≤ m) : name ∈ spread weak m used := by
  induction h generalizing m with
  | @start name here => exact subset_spread weak m used here
  | @step n owner name reached leads ih =>
    obtain ⟨m, rfl⟩ := Nat.exists_eq_add_of_le' (Nat.lt_of_lt_of_le n.succ_pos soon)
    exact mem_spread_succ.mpr (.inr ⟨owner, ih (Nat.le_of_succ_le_succ soon), leads⟩)

/-- Spreading goes as far as its number of steps, and no farther. -/
theorem mem_spread_iff :
    name ∈ spread weak n used ↔ ∃ k ≤ n, ReachedIn (· ∈ used) (fun owner name => (owner, name) ∈ weak) k name := by
  constructor
  · intro h
    induction n generalizing name with
    | zero => exact ⟨0, Nat.le_refl 0, .start h⟩
    | succ n ih =>
      rcases mem_spread_succ.mp h with h | ⟨owner, there, leads⟩
      · obtain ⟨k, soon, reached⟩ := ih h
        exact ⟨k, Nat.le_succ_of_le soon, reached⟩
      · obtain ⟨k, soon, reached⟩ := ih there
        exact ⟨k + 1, Nat.succ_le_succ soon, .step reached leads⟩
  · rintro ⟨k, soon, reached⟩
    exact reached.mem_spread soon

theorem ReachedIn.congr {start start' : Name → Prop} {step step' : Name → Name → Prop}
    (starts : ∀ name, start name ↔ start' name) (steps : ∀ owner name, step owner name ↔ step' owner name) :
    ReachedIn start step n name ↔ ReachedIn start' step' n name := by
  obtain rfl : start = start' := funext fun name => propext (starts name)
  obtain rfl : step = step' := funext fun owner => funext fun name => propext (steps owner name)
  rfl

end Spread

section Scan
variable {hide : Bool} {owner : Option Name} {line : List Char} {lines : List (List Char)} {o name : Name}

theorem mem_lineUsage_direct : name ∈ (lineUsage hide owner line).direct ↔ Uses hide line name := by
  have named : name ∈ (declared? line).toList ↔ declared? line = some name := Option.mem_toList
  unfold lineUsage
  constructor
  · intro h
    have spoken (visible : classify line ≠ .blank) (spoken : classify line ≠ .comment)
        (there : name ∈ (declared? line).toList) : Uses hide line name :=
      .declaration visible spoken (named.mp there)
    cases kind : classify line with
    | blank => simp [kind] at h
    | comment => simp [kind] at h
    | label => exact spoken (by simp [kind]) (by simp [kind]) (by simpa [kind] using h)
    | data => exact spoken (by simp [kind]) (by simp [kind]) (by simpa [kind] using h)
    | directive =>
      simp only [kind] at h
      split at h
      · exact spoken (by simp [kind]) (by simp [kind]) h
      · rename_i shown
        rcases List.mem_append.mp h with h | h
        · exact spoken (by simp [kind]) (by simp [kind]) h
        · exact .directive kind (Bool.eq_false_iff.mpr shown) h
    | instruction =>
      simp only [kind] at h
      split at h
      · rename_i opcode
        rcases List.mem_append.mp h with h | h
        · exact spoken (by simp [kind]) (by simp [kind]) h
        · exact .instruction kind opcode h
      · exact spoken (by simp [kind]) (by simp [kind]) h
  · intro h
    cases h with
    | declaration visible spoken declares =>
      have there := named.mpr declares
      cases kind : classify line with
      | blank => exact absurd kind visible
      | comment => exact absurd kind spoken
      | label => exact there
      | data => exact there
      | directive =>
        simp only
        split
        · exact there
        · exact List.mem_append_left _ there
      | instruction =>
        simp only
        split
        · exact List.mem_append_left _ there
        · exact there
    | instruction kind opcode refers => simp [kind, opcode, refers]
    | directive kind shown refers => simp [kind, shown, refers]

theorem mem_usageFrom_direct :
    name ∈ (usageFrom hide owner lines).direct ↔ ∃ line ∈ lines, Uses hide line name := by
  induction lines generalizing owner with
  | nil => simp [usageFrom]
  | cons line rest ih =>
    rw [usageFrom, List.mem_append, ih, mem_lineUsage_direct]
    simp

theorem mem_lineUsage_weak :
    (o, name) ∈ (lineUsage hide owner line).weak ↔
      classify line = .data ∧ owner = some o ∧ name ∈ references (afterLabel line) := by
  unfold lineUsage
  cases kind : classify line <;> simp

theorem mem_usageFrom_weak (above : List (List Char)) :
    (o, name) ∈ (usageFrom hide (above.foldl ownerAfter none) lines).weak ↔
      ∃ p ∈ positionsFrom above lines,
        classify p.line = .data ∧ p.reading.foldl ownerAfter none = some o ∧ name ∈ references (afterLabel p.line) := by
  induction lines generalizing above with
  | nil => simp [usageFrom, positionsFrom]
  | cons line rest ih =>
    have next : ownerAfter (above.foldl ownerAfter none) line = (above ++ [line]).foldl ownerAfter none := by simp
    rw [usageFrom, List.mem_append, next, ih, mem_lineUsage_weak, positionsFrom, List.exists_mem_cons_iff]
    rfl

theorem ownerAfter_of_heads (h : Heads o line) : ownerAfter owner line = some o := by
  unfold ownerAfter
  split
  · exact absurd ‹_› h.visible
  · exact absurd ‹_› h.spoken
  · rw [nextOwner, h.label, Option.some_or]

theorem ownerAfter_of_not_isHead (other : ¬ IsHead line) : ownerAfter owner line = owner := by
  unfold ownerAfter
  split
  · rfl
  · rfl
  · rename_i visible spoken
    cases named : label? line with
    | none => rw [nextOwner, named, Option.none_or]
    | some name => exact absurd ⟨name, visible, spoken, named⟩ other

theorem foldl_ownerAfter_eq_some_iff : lines.foldl ownerAfter none = some o ↔ Owns o lines := by
  induction lines using List.reverseRecOn with
  | nil => exact iff_of_false (by simp) not_exists_latest_nil
  | append_singleton lines line ih =>
    rw [List.foldl_append, List.foldl_cons, List.foldl_nil]
    by_cases heads : IsHead line
    · obtain ⟨name, named⟩ := id heads
      rw [ownerAfter_of_heads named, Option.some.injEq, Owns, exists_latest_concat_of_pos heads]
      constructor
      · rintro rfl
        exact named
      · intro here
        exact Option.some.inj (named.label.symm.trans here.label)
    · rw [ownerAfter_of_not_isHead heads, ih, Owns, Owns, exists_latest_concat_of_neg heads]

end Scan

/-- Used labels are bounded reachability: the names that are at most ten weak steps away from one that some line uses
outright. -/
theorem mem_usedLabels_iff_reachedIn (hide : Bool) (lines : List (List Char)) (name : Name) :
    name ∈ usedLabels hide lines ↔
      ∃ n ≤ 10, ReachedIn (fun name => ∃ line ∈ lines, Uses hide line name) (RefersWeakly lines) n name := by
  have starts (name : Name) :
      name ∈ (usageFrom hide none lines).direct.eraseDups ↔ ∃ line ∈ lines, Uses hide line name := by
    rw [List.mem_eraseDups, mem_usageFrom_direct]
  have steps (owner name : Name) :
      (owner, name) ∈ (usageFrom hide none lines).weak ↔ RefersWeakly lines owner name := by
    have charged : (owner, name) ∈ (usageFrom hide none lines).weak ↔ _ := mem_usageFrom_weak []
    simp only [charged, foldl_ownerAfter_eq_some_iff]
    rfl
  rw [usedLabels, mem_spread_iff]
  simp only [ReachedIn.congr starts steps]
  rfl

end AsmScope.Listing
