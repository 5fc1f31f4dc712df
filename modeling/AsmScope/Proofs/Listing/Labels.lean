import AsmScope.Listing.Labels
import Mathlib.Data.List.Basic

/-! Used labels grow with what is shown. Hiding directives takes away outright uses and nothing else, and following
the weak ones never loses a label that was used before. -/

namespace AsmScope.Listing
open AsmScope.Text

theorem mem_fresh {weak : List (Name × Name)} {used : List Name} {name : Name} :
    name ∈ fresh weak used ↔ name ∉ used ∧ ∃ owner ∈ used, (owner, name) ∈ weak := by
  simp only [fresh, List.mem_eraseDups, List.mem_map, List.mem_filter, Bool.and_eq_true, Bool.not_eq_true',
    List.contains_eq_mem, decide_eq_true_eq, decide_eq_false_iff_not]
  constructor
  · rintro ⟨⟨owner, _⟩, ⟨refers, owned, unused⟩, rfl⟩
    exact ⟨unused, owner, owned, refers⟩
  · rintro ⟨unused, owner, owned, refers⟩
    exact ⟨(owner, name), ⟨refers, owned, unused⟩, rfl⟩

theorem spread_succ (weak : List (Name × Name)) (n : Nat) (used : List Name) :
    spread weak (n + 1) used = spread weak n (used ++ fresh weak used) := by
  rw [spread]
  cases names : fresh weak used with
  | cons name names => rfl
  | nil =>
    rw [List.append_nil]
    cases n with
    | zero => rfl
    | succ n => rw [spread, names]

theorem subset_spread (weak : List (Name × Name)) (n : Nat) (used : List Name) : used ⊆ spread weak n used := by
  induction n generalizing used with
  | zero => exact List.Subset.refl _
  | succ n ih =>
    rw [spread_succ]
    exact fun name there => ih _ (List.mem_append_left _ there)

theorem spread_mono {weak : List (Name × Name)} {n : Nat} {used more : List Name} (h : used ⊆ more) :
    spread weak n used ⊆ spread weak n more := by
  induction n generalizing used more with
  | zero => exact h
  | succ n ih =>
    rw [spread_succ, spread_succ]
    refine ih fun name there => ?_
    rw [List.mem_append] at there ⊢
    rcases there with there | there
    · exact .inl (h there)
    · by_cases already : name ∈ more
      · exact .inl already
      · obtain ⟨-, owner, owned, refers⟩ := mem_fresh.mp there
        exact .inr (mem_fresh.mpr ⟨already, owner, h owned, refers⟩)

section Hiding
variable {hide hide' : Bool} (more : hide = true → hide' = true)

theorem lineUsage_weak (hide hide' : Bool) (owner : Option Name) (line : List Char) :
    (lineUsage hide owner line).weak = (lineUsage hide' owner line).weak := by
  unfold lineUsage
  cases classify line <;> rfl

include more in
theorem lineUsage_direct_subset (owner : Option Name) (line : List Char) :
    (lineUsage hide' owner line).direct ⊆ (lineUsage hide owner line).direct := by
  unfold lineUsage
  cases classify line with
  | directive =>
    simp only
    cases hide with
    | true => simp [more rfl]
    | false => cases hide' <;> simp
  | _ => exact List.Subset.refl _

theorem usageFrom_weak (hide hide' : Bool) (owner : Option Name) (lines : List (List Char)) :
    (usageFrom hide owner lines).weak = (usageFrom hide' owner lines).weak := by
  induction lines generalizing owner with
  | nil => rfl
  | cons line lines ih => simp only [usageFrom, ih, lineUsage_weak hide hide']

include more in
theorem usageFrom_direct_subset (owner : Option Name) (lines : List (List Char)) :
    (usageFrom hide' owner lines).direct ⊆ (usageFrom hide owner lines).direct := by
  induction lines generalizing owner with
  | nil => exact List.Subset.refl _
  | cons line lines ih =>
    intro name there
    exact List.mem_append.mpr ((List.mem_append.mp there).imp (lineUsage_direct_subset more _ _ ·) (ih _ ·))

include more in
/-- With more directives hidden no other label becomes used. -/
theorem usedLabels_subset (lines : List (List Char)) : usedLabels hide' lines ⊆ usedLabels hide lines := by
  simp only [usedLabels, usageFrom_weak hide' hide]
  refine spread_mono fun name there => ?_
  rw [List.mem_eraseDups] at there ⊢
  exact usageFrom_direct_subset more none lines there

end Hiding
end AsmScope.Listing
