import AsmScope.Pattern.Basic
import Mathlib.Data.List.Basic

/-! The texts that a pattern takes. A pattern takes a part of the text in front of a cursor, and if it has no marks it
takes that part wherever it stands. So a pattern between the marks for the beginning and the end matches the texts that
it takes, and those with a line feed after them. -/

namespace AsmScope.Pattern
open CharClass

def Takes : Pattern → List Char → Prop
  | .empty, s => s = []
  | .never, _ => False
  | .char k, s => ∃ c, s = [c] ∧ k.has c = true
  | .seq p q, s => ∃ u v, s = u ++ v ∧ p.Takes u ∧ q.Takes v
  | .alt p q, s => p.Takes s ∨ q.Takes s
  | .star p, s => ∃ parts : List (List Char), s = parts.flatten ∧ ∀ u ∈ parts, p.Takes u
  | .opening, s => s = []
  | .closing, s => s = []
  | .boundary _, s => s = []

def hasNoMark : Pattern → Bool
  | .empty | .never | .char _ => true
  | .seq p q => p.hasNoMark && q.hasNoMark
  | .alt p q => p.hasNoMark && q.hasNoMark
  | .star p => p.hasNoMark
  | .opening | .closing | .boundary _ => false

section Matches
variable {p q : Pattern} {c d : Cursor} {s r : List Char}

theorem takes_of_matches (h : Matches p c d) : ∃ s, c.rest = s ++ d.rest ∧ p.Takes s := by
  induction h with
  | empty => exact ⟨[], rfl, rfl⟩
  | @char _ _ x _ accepted => exact ⟨[x], rfl, x, rfl, accepted⟩
  | seq _ _ first second =>
    obtain ⟨u, left, taken⟩ := first
    obtain ⟨v, right, taken'⟩ := second
    exact ⟨u ++ v, by rw [left, right, List.append_assoc], u, v, rfl, taken, taken'⟩
  | left _ ih =>
    obtain ⟨s, same, taken⟩ := ih
    exact ⟨s, same, .inl taken⟩
  | right _ ih =>
    obtain ⟨s, same, taken⟩ := ih
    exact ⟨s, same, .inr taken⟩
  | done => exact ⟨[], rfl, [], rfl, by simp⟩
  | more _ _ _ first rest =>
    obtain ⟨u, left, taken⟩ := first
    obtain ⟨_, right, parts, rfl, all⟩ := rest
    refine ⟨u ++ parts.flatten, by rw [left, right, List.append_assoc], u :: parts, rfl, ?_⟩
    exact List.forall_mem_cons.mpr ⟨taken, all⟩
  | opening => exact ⟨[], rfl, rfl⟩
  | closing _ => exact ⟨[], rfl, rfl⟩
  | boundary _ => exact ⟨[], rfl, rfl⟩

theorem takes_seq_empty_iff : (Pattern.seq p .empty).Takes s ↔ p.Takes s := by
  constructor
  · rintro ⟨u, _, rfl, taken, rfl⟩
    rwa [List.append_nil]
  · intro taken
    exact ⟨s, [], (List.append_nil s).symm, taken, rfl⟩

/-- A text is taken whatever stands before and after it. -/
theorem exists_matches_of_takes (plain : p.hasNoMark = true) (taken : p.Takes s) (before : Option Char)
    (r : List Char) : ∃ last, Matches p ⟨before, s ++ r⟩ ⟨last, r⟩ := by
  induction p generalizing s before r with
  | empty =>
    obtain rfl := taken
    exact ⟨before, .empty⟩
  | never => cases taken
  | char k =>
    obtain ⟨c, rfl, accepted⟩ := taken
    exact ⟨some c, .char accepted⟩
  | seq p q first second =>
    obtain ⟨plain, plain'⟩ := Bool.and_eq_true_iff.mp plain
    obtain ⟨u, v, rfl, taken, taken'⟩ := taken
    obtain ⟨middle, left⟩ := first plain taken before (v ++ r)
    obtain ⟨last, right⟩ := second plain' taken' middle r
    rw [List.append_assoc]
    exact ⟨last, .seq left right⟩
  | alt p q first second =>
    obtain ⟨plain, plain'⟩ := Bool.and_eq_true_iff.mp plain
    rcases taken with taken | taken
    · obtain ⟨last, left⟩ := first plain taken before r
      exact ⟨last, .left left⟩
    · obtain ⟨last, right⟩ := second plain' taken before r
      exact ⟨last, .right right⟩
  | star p ih =>
    obtain ⟨parts, rfl, all⟩ := taken
    induction parts generalizing before with
    | nil => exact ⟨before, .done⟩
    | cons u parts step =>
      obtain ⟨taken, others⟩ := List.forall_mem_cons.mp all
      cases u with
      -- A round that takes nothing is left out.
      | nil => exact step before others
      | cons c u =>
        obtain ⟨middle, round⟩ := ih plain taken before (parts.flatten ++ r)
        obtain ⟨last, rest⟩ := step middle others
        rw [List.flatten_cons, List.append_assoc]
        have shorter : (parts.flatten ++ r).length < (c :: u ++ (parts.flatten ++ r)).length := by
          simp only [List.cons_append, List.length_cons, List.length_append]
          omega
        exact ⟨last, .more shorter round rest⟩
  | opening => cases plain
  | closing => cases plain
  | boundary wanted => cases plain

theorem matchesStart_anchored_iff (plain : p.hasNoMark = true) (plain' : q.hasNoMark = true) :
    (Pattern.seq .opening (.seq p (.seq q (.seq .closing .empty)))).matchesStart s = true ↔
      ∃ u v, p.Takes u ∧ q.Takes v ∧ (s = u ++ v ∨ s = u ++ v ++ ['\n']) := by
  rw [matchesStart_iff]
  constructor
  · rintro ⟨_, begun⟩
    obtain _ | _ | ⟨opening, begun⟩ := begun
    cases opening
    obtain _ | _ | ⟨first, begun⟩ := begun
    obtain _ | _ | ⟨second, begun⟩ := begun
    obtain _ | _ | ⟨closing, _⟩ := begun
    obtain ⟨u, left, taken⟩ := takes_of_matches first
    obtain ⟨v, right, taken'⟩ := takes_of_matches second
    have whole : s = u ++ _ := left
    cases closing with
    | closing ended =>
      simp only [Cursor.atEnd, Bool.or_eq_true, beq_iff_eq] at ended
      refine ⟨u, v, taken, taken', ended.imp (fun none => ?_) fun feed => ?_⟩
      · rw [whole, right, none, List.append_nil]
      · rw [whole, right, feed, List.append_assoc]
  · rintro ⟨u, v, taken, taken', ends⟩
    obtain ⟨r, rfl, ended⟩ : ∃ r, s = u ++ (v ++ r) ∧ (r = [] ∨ r = ['\n']) := by
      rcases ends with rfl | rfl
      · exact ⟨[], by simp, .inl rfl⟩
      · exact ⟨['\n'], by simp, .inr rfl⟩
    obtain ⟨middle, first⟩ := exists_matches_of_takes plain taken none (v ++ r)
    obtain ⟨last, second⟩ := exists_matches_of_takes plain' taken' middle r
    have closing : (⟨last, r⟩ : Cursor).atEnd = true := by
      rcases ended with rfl | rfl <;> rfl
    exact ⟨_, .seq .opening (.seq first (.seq second (.seq (.closing closing) .empty)))⟩

end Matches

section Parts
variable {p : Pattern} {k : CharClass} {s : List Char}

theorem has_single {c d : Char} : (single c).has d = true ↔ d = c := by
  simp only [single, has, Bool.and_eq_true, decide_eq_true_eq]
  exact ⟨fun ⟨low, high⟩ => Char.le_antisymm high low, fun same => same ▸ ⟨Char.le_refl _, Char.le_refl _⟩⟩

theorem has_point {c : Char} : point.has c = true ↔ c ≠ '\n' := by
  simp only [point, has, hasAny, Bool.or_false, Bool.not_eq_true', Bool.eq_false_iff, ne_eq, has_single]

theorem takes_star_char_iff : (Pattern.star (.char k)).Takes s ↔ ∀ c ∈ s, k.has c = true := by
  constructor
  · rintro ⟨parts, rfl, all⟩ c there
    obtain ⟨u, inside, there⟩ := List.mem_flatten.mp there
    obtain ⟨d, rfl, accepted⟩ := all u inside
    rwa [List.mem_singleton.mp there]
  · intro all
    refine ⟨s.map fun c => [c], by rw [← List.flatMap_def, List.flatMap_singleton'], fun u there => ?_⟩
    obtain ⟨c, inside, rfl⟩ := List.mem_map.mp there
    exact ⟨c, rfl, all c inside⟩

def spelled (word : List Char) (rest : Pattern) : Pattern := word.foldr (fun c r => .seq (.char (single c)) r) rest

theorem takes_spelled_iff {word : List Char} : (spelled word p).Takes s ↔ ∃ v, s = word ++ v ∧ p.Takes v := by
  induction word generalizing s with
  | nil => simp [spelled]
  | cons c word ih =>
    have unfolded : spelled (c :: word) p = .seq (.char (single c)) (spelled word p) := rfl
    rw [unfolded]
    constructor
    · rintro ⟨_, v, rfl, ⟨d, rfl, accepted⟩, taken⟩
      obtain rfl := has_single.mp accepted
      obtain ⟨v, rfl, rest⟩ := ih.mp taken
      exact ⟨v, rfl, rest⟩
    · rintro ⟨v, rfl, taken⟩
      exact ⟨[c], word ++ v, rfl, ⟨c, rfl, has_single.mpr rfl⟩, ih.mpr ⟨v, rfl, taken⟩⟩

theorem hasNoMark_spelled {word : List Char} (plain : p.hasNoMark = true) : (spelled word p).hasNoMark = true := by
  induction word with
  | nil => exact plain
  | cons c word ih => exact Bool.and_eq_true_iff.mpr ⟨rfl, ih⟩

def oneOf (first : Pattern) : List Pattern → Pattern
  | [] => first
  | second :: rest => .alt first (oneOf second rest)

theorem takes_oneOf_iff {rest : List Pattern} : (oneOf p rest).Takes s ↔ ∃ q ∈ p :: rest, q.Takes s := by
  induction rest generalizing p with
  | nil => simp [oneOf]
  | cons second rest ih =>
    rw [List.exists_mem_cons_iff, ← ih]
    rfl

theorem hasNoMark_oneOf {rest : List Pattern} (plain : ∀ q ∈ p :: rest, q.hasNoMark = true) :
    (oneOf p rest).hasNoMark = true := by
  induction rest generalizing p with
  | nil => exact plain p (List.mem_singleton_self p)
  | cons second rest ih =>
    obtain ⟨first, others⟩ := List.forall_mem_cons.mp plain
    exact Bool.and_eq_true_iff.mpr ⟨first, ih others⟩

end Parts
end AsmScope.Pattern
