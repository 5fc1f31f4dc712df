import AsmScope.Text.Escaped

/-! Escaped text can be told from what follows it: no escape of a character is the beginning of the escape of
another, and none begins with the quote that ends a text. Surrogates matter here. A pair stands for a character
beyond the basic plane only because no character has a surrogate as its own number. -/

namespace AsmScope.Text

theorem hexDigit_injective_below : ∀ a < 16, ∀ b < 16, hexDigit a = hexDigit b → a = b := by decide

theorem fourHex_injective_below {a b : Nat} (ha : a < 0x10000) (hb : b < 0x10000)
    (h : fourHex a = fourHex b) : a = b := by
  simp only [fourHex, List.cons.injEq, and_true] at h
  obtain ⟨h3, h2, h1, h0⟩ := h
  have d3 := hexDigit_injective_below _ (by omega) _ (by omega) h3
  have d2 := hexDigit_injective_below _ (by omega) _ (by omega) h2
  have d1 := hexDigit_injective_below _ (by omega) _ (by omega) h1
  have d0 := hexDigit_injective_below _ (by omega) _ (by omega) h0
  omega

theorem unitEscape_append_inj {a b : Nat} (ha : a < 0x10000) (hb : b < 0x10000) {r r' : List Char}
    (h : unitEscape a ++ r = unitEscape b ++ r') : a = b ∧ r = r' := by
  simp only [unitEscape, List.cons_append, List.cons.injEq, true_and] at h
  obtain ⟨digits, rest⟩ := List.append_inj h rfl
  exact ⟨fourHex_injective_below ha hb digits, rest⟩

theorem not_surrogate (c : Char) : c.toNat < 0xD800 ∨ 0xDFFF < c.toNat ∧ c.toNat < 0x110000 := c.valid

theorem unitEscapes_append_inj {c d : Char} {r r' : List Char}
    (h : unitEscapes c ++ r = unitEscapes d ++ r') : c = d ∧ r = r' := by
  have hc := not_surrogate c
  have hd := not_surrogate d
  simp only [unitEscapes] at h
  split at h <;> split at h
  · obtain ⟨number, rest⟩ := unitEscape_append_inj (by omega) (by omega) h
    exact ⟨Char.toNat_inj.mp number, rest⟩
  · rw [List.append_assoc] at h
    obtain ⟨number, -⟩ := unitEscape_append_inj (by omega) (by omega) h
    omega
  · rw [List.append_assoc] at h
    obtain ⟨number, -⟩ := unitEscape_append_inj (by omega) (by omega) h
    omega
  · rw [List.append_assoc, List.append_assoc] at h
    obtain ⟨high, low⟩ := unitEscape_append_inj (by omega) (by omega) h
    obtain ⟨low, rest⟩ := unitEscape_append_inj (by omega) (by omega) low
    exact ⟨Char.toNat_inj.mp (by omega), rest⟩

theorem unitEscapes_begin (c : Char) : ∃ t, unitEscapes c = '\\' :: 'u' :: t := by
  simp only [unitEscapes]
  split
  · exact ⟨_, rfl⟩
  · exact ⟨_, rfl⟩

def shortEscapes : List (Char × Char) :=
  [('"', '"'), ('\\', '\\'), ('\n', 'n'), ('\r', 'r'), ('\t', 't'), (Char.ofNat 8, 'b'), (Char.ofNat 12, 'f')]

theorem mem_shortEscapes {c letter : Char} (h : shortEscape? c = some letter) : (c, letter) ∈ shortEscapes := by
  unfold shortEscape? at h
  repeat' split at h
  all_goals try subst c
  all_goals cases h
  all_goals decide

theorem shortEscape?_injective {c d letter : Char} (hc : shortEscape? c = some letter)
    (hd : shortEscape? d = some letter) : c = d := by
  have apart : ∀ p ∈ shortEscapes, ∀ q ∈ shortEscapes, p.2 = q.2 → p.1 = q.1 := by decide
  exact apart _ (mem_shortEscapes hc) _ (mem_shortEscapes hd) rfl

theorem shortEscape?_ne_unit {c letter : Char} (h : shortEscape? c = some letter) : letter ≠ 'u' := by
  have other : ∀ p ∈ shortEscapes, p.2 ≠ 'u' := by decide
  exact other _ (mem_shortEscapes h)

theorem plain_of_shortEscape? {c : Char} (h : shortEscape? c = none) : c ≠ '"' ∧ c ≠ '\\' := by
  unfold shortEscape? at h
  grind

theorem escapeChar_cases (ascii : Bool) (c : Char) :
    (∃ letter, shortEscape? c = some letter ∧ escapeChar ascii c = ['\\', letter]) ∨
    escapeChar ascii c = unitEscapes c ∨
    (c ≠ '"' ∧ c ≠ '\\') ∧ escapeChar ascii c = [c] := by
  unfold escapeChar
  cases h : shortEscape? c with
  | some letter => exact .inl ⟨letter, rfl, rfl⟩
  | none =>
    simp only
    split
    · exact .inr (.inl rfl)
    · exact .inr (.inr ⟨plain_of_shortEscape? h, rfl⟩)

theorem escapeChar_append_inj (ascii : Bool) {c d : Char} {r r' : List Char}
    (h : escapeChar ascii c ++ r = escapeChar ascii d ++ r') : c = d ∧ r = r' := by
  obtain ⟨tc, hc'⟩ := unitEscapes_begin c
  obtain ⟨td, hd'⟩ := unitEscapes_begin d
  rcases escapeChar_cases ascii c with ⟨letter, hl, hc⟩ | hc | ⟨hn, hc⟩ <;>
    rcases escapeChar_cases ascii d with ⟨other, ho, hd⟩ | hd | ⟨hm, hd⟩ <;> rw [hc, hd] at h
  · simp only [List.cons_append, List.nil_append, List.cons.injEq, true_and] at h
    obtain ⟨rfl, rest⟩ := h
    exact ⟨shortEscape?_injective hl ho, rest⟩
  · simp only [hd', List.cons_append, List.cons.injEq, true_and] at h
    exact absurd h.1 (shortEscape?_ne_unit hl)
  · simp only [List.cons_append, List.cons.injEq] at h
    exact absurd h.1.symm hm.2
  · simp only [hc', List.cons_append, List.cons.injEq, true_and] at h
    exact absurd h.1.symm (shortEscape?_ne_unit ho)
  · exact unitEscapes_append_inj h
  · simp only [hc', List.cons_append, List.cons.injEq] at h
    exact absurd h.1.symm hm.2
  · simp only [List.cons_append, List.cons.injEq] at h
    exact absurd h.1 hn.2
  · simp only [hd', List.cons_append, List.cons.injEq] at h
    exact absurd h.1 hn.2
  · simpa only [List.cons_append, List.nil_append, List.cons.injEq] using h

theorem escapeChar_ne_quote (ascii : Bool) (c : Char) (r s : List Char) :
    escapeChar ascii c ++ r ≠ '"' :: s := by
  obtain ⟨t, ht⟩ := unitEscapes_begin c
  rcases escapeChar_cases ascii c with ⟨letter, -, hc⟩ | hc | ⟨hn, hc⟩ <;> rw [hc]
  · simp
  · simp [ht]
  · simpa using fun h => absurd h hn.1

/-- Items that are written one after another up to a mark. If each can be told from what follows it and from
the mark, then so can the whole row. -/
theorem flatMap_append_inj {α : Type} {f : α → List Char} {mark : Char} {xs ys : List α} {r r' : List Char}
    (inj : ∀ x ∈ xs, ∀ y ∈ ys, ∀ {r r' : List Char}, f x ++ r = f y ++ r' → x = y ∧ r = r')
    (left : ∀ x ∈ xs, ∀ r s, f x ++ r ≠ mark :: s) (right : ∀ y ∈ ys, ∀ r s, f y ++ r ≠ mark :: s)
    (h : xs.flatMap f ++ mark :: r = ys.flatMap f ++ mark :: r') : xs = ys ∧ r = r' := by
  induction xs generalizing ys with
  | nil =>
    cases ys with
    | nil => simpa using h
    | cons y ys =>
      rw [List.flatMap_cons, List.append_assoc] at h
      exact absurd h.symm (right y List.mem_cons_self _ _)
  | cons x xs ih =>
    cases ys with
    | nil =>
      rw [List.flatMap_cons, List.append_assoc] at h
      exact absurd h (left x List.mem_cons_self _ _)
    | cons y ys =>
      rw [List.flatMap_cons, List.flatMap_cons, List.append_assoc, List.append_assoc] at h
      obtain ⟨rfl, rest⟩ := inj x List.mem_cons_self y List.mem_cons_self h
      obtain ⟨same, tail⟩ := ih
        (fun x hx y hy => inj x (List.mem_cons_of_mem _ hx) y (List.mem_cons_of_mem _ hy))
        (fun x hx => left x (List.mem_cons_of_mem _ hx))
        (fun y hy => right y (List.mem_cons_of_mem _ hy)) rest
      exact ⟨congrArg _ same, tail⟩

theorem escape_append_inj (ascii : Bool) {s t r r' : List Char}
    (h : escape ascii s ++ '"' :: r = escape ascii t ++ '"' :: r') : s = t ∧ r = r' :=
  flatMap_append_inj (fun _ _ _ _ => escapeChar_append_inj ascii)
    (fun c _ => escapeChar_ne_quote ascii c) (fun c _ => escapeChar_ne_quote ascii c) h

end AsmScope.Text
