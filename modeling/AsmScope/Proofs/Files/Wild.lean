import AsmScope.Files.Wild
import AsmScope.Proofs.Pattern.Language

/-! Patterns that end in a star. Where no other sign stands in front of it, they accept the names that begin so. -/

namespace AsmScope.Wild
open Pattern CharClass WildStep

theorem readFrom_nil (fuel : Nat) : readFrom fuel [] = [] := by
  cases fuel <;> rfl

theorem readFrom_cons {c : Char} (plain : isWildChar c = false) (fuel : Nat) (s : List Char) :
    readFrom (fuel + 1) (c :: s) = .char (.single c) :: readFrom fuel s := by
  simp only [isWildChar, Bool.or_eq_false_iff, beq_eq_false_iff_ne, ne_eq] at plain
  obtain ⟨⟨star, question⟩, bracket⟩ := plain
  rw [readFrom]
  · exact star
  · exact question
  · exact bracket

theorem readFrom_star {s : List Char} (plain : ∀ c ∈ s, isWildChar c = false) {fuel : Nat} (enough : s.length < fuel) :
    readFrom fuel (s ++ ['*']) = s.map (fun c => .char (.single c)) ++ [.run] := by
  induction s generalizing fuel with
  | nil =>
    obtain ⟨fuel, rfl⟩ := Nat.exists_eq_add_one_of_ne_zero (Nat.ne_of_gt enough)
    rw [List.nil_append, readFrom, readFrom_nil]
    rfl
  | cons c s ih =>
    obtain ⟨fuel, rfl⟩ := Nat.exists_eq_add_one_of_ne_zero (Nat.ne_of_gt (Nat.zero_lt_of_lt enough))
    rw [List.forall_mem_cons] at plain
    rw [List.cons_append, readFrom_cons plain.1, ih plain.2 (Nat.lt_of_succ_lt_succ enough)]
    rfl

theorem accepts_run (s : List Char) : accepts [.run] s = true := by
  induction s with
  | nil => rw [accepts, accepts]; rfl
  | cons c s ih => rw [accepts, ih, Bool.or_true]

theorem accepts_spelled_iff (s name : List Char) :
    accepts (s.map (fun c => .char (.single c)) ++ [.run]) name = true ↔ s <+: name := by
  induction s generalizing name with
  | nil => simp [accepts_run]
  | cons c s ih =>
    cases name with
    | nil => simp [accepts]
    | cons d name =>
      rw [List.map_cons, List.cons_append, accepts, Bool.and_eq_true, has_single, ih, List.cons_prefix_cons,
        eq_comm (a := d)]

theorem accepts_star_iff {s : List Char} (plain : ∀ c ∈ s, isWildChar c = false) (name : List Char) :
    accepts (read (s ++ ['*'])) name = true ↔ s <+: name := by
  rw [read, readFrom_star plain (by simp), accepts_spelled_iff]

end AsmScope.Wild
