import Mathlib.Data.List.Nodup

/-! Lists whose members are told apart by a key. One member can be taken to the front, and what is counted over the
list is counted over that member and the others. -/

namespace AsmScope
variable {α β : Type} [DecidableEq β] {key : α → β}

theorem perm_cons_others {a : α} : {members : List α} → (members.map key).Nodup → a ∈ members →
    members.Perm (a :: members.filter fun b => key b ≠ key a)
  | [], _, ha => nomatch ha
  | b :: rest, keys, ha => by
    obtain ⟨absent, keys⟩ := List.nodup_cons.mp keys
    rcases List.mem_cons.mp ha with rfl | ha
    · have alone : rest.filter (fun b => key b ≠ key a) = rest := by
        refine List.filter_eq_self.mpr fun c hc => ?_
        have other : key c ≠ key a := fun same => absent (same ▸ List.mem_map_of_mem hc)
        simpa using other
      rw [List.filter_cons_of_neg (by simp), alone]
    · have other : key b ≠ key a := fun same => absent (same ▸ List.mem_map_of_mem ha)
      rw [List.filter_cons_of_pos (by simpa using other)]
      exact ((perm_cons_others keys ha).cons b).trans (.swap a b _)

theorem countP_eq_others {a : α} {members : List α} (p : α → Bool) (keys : (members.map key).Nodup)
    (ha : a ∈ members) :
    members.countP p = (members.filter fun b => key b ≠ key a).countP p + (p a).toNat := by
  rw [(perm_cons_others keys ha).countP_eq, List.countP_cons]
  cases p a <;> rfl

/-- A change that matters for one member only. -/
theorem countP_map_of_others {a : α} {members : List α} {p : α → Bool} {f : α → α} (keys : (members.map key).Nodup)
    (ha : a ∈ members) (others : ∀ b ∈ members, key b ≠ key a → p (f b) = p b) :
    (members.map f).countP p + (p a).toNat = members.countP p + (p (f a)).toNat := by
  have same : (members.filter fun b => key b ≠ key a).countP (p ∘ f) =
      (members.filter fun b => key b ≠ key a).countP p := by
    refine List.countP_congr fun b hb => ?_
    obtain ⟨hb, other⟩ := List.mem_filter.mp hb
    rw [Function.comp_apply, others b hb (by simpa using other)]
  rw [List.countP_map, countP_eq_others (p ∘ f) keys ha, countP_eq_others p keys ha, same, Function.comp_apply]
  omega

end AsmScope
