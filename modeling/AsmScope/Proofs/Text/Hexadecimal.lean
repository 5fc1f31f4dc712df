import AsmScope.Proofs.Text.Layout
import AsmScope.Text.Numeral

/-! Hexadecimal numerals in small letters. A number comes back from the digits it is written with, whatever zeros
stand before them, and so does an octet from its two digits. No blank is a digit. -/

namespace AsmScope.Text

theorem isHexDigit_hexDigit : ∀ n < 16, isHexDigit (hexDigit n) = true := by decide

theorem hexDigitValue_hexDigit : ∀ n < 16, hexDigitValue (hexDigit n) = n := by decide

theorem shuns_isHexDigit : Shuns isHexDigit := shuns_of_codes (by decide)

theorem isBlank_of_isHexDigit {c : Char} (digit : isHexDigit c = true) : isBlank c = false := by
  by_contra blank
  rw [shuns_isHexDigit c (Bool.not_eq_false _ ▸ blank)] at digit
  cases digit

def addressText (zeros n : Nat) : List Char := List.replicate zeros '0' ++ hexDigitsFrom (n + 1) n []

def octetDigits (octet : UInt8) : List Char := [hexDigit (octet.toNat / 16), hexDigit (octet.toNat % 16)]

theorem isHexDigit_of_mem_hexDigitsFrom {fuel n : Nat} {tail : List Char}
    (digits : ∀ c ∈ tail, isHexDigit c = true) : ∀ c ∈ hexDigitsFrom fuel n tail, isHexDigit c = true := by
  induction fuel generalizing n tail with
  | zero => exact digits
  | succ fuel ih =>
    rw [hexDigitsFrom]
    split
    · rename_i small
      exact List.forall_mem_cons.mpr ⟨isHexDigit_hexDigit n small, digits⟩
    · exact ih (List.forall_mem_cons.mpr ⟨isHexDigit_hexDigit _ (Nat.mod_lt _ (by decide)), digits⟩)

theorem isHexDigit_of_mem_addressText {zeros n : Nat} {c : Char} (there : c ∈ addressText zeros n) :
    isHexDigit c = true := by
  rcases List.mem_append.mp there with zero | digit
  · rw [List.eq_of_mem_replicate zero]
    rfl
  · exact isHexDigit_of_mem_hexDigitsFrom (by simp) c digit

theorem hexDigitsFrom_ne_nil {fuel n : Nat} {tail : List Char} (filled : tail ≠ [] ∨ 0 < fuel) :
    hexDigitsFrom fuel n tail ≠ [] := by
  induction fuel generalizing n tail with
  | zero => simpa [hexDigitsFrom] using filled
  | succ fuel ih =>
    rw [hexDigitsFrom]
    split
    · exact List.cons_ne_nil _ _
    · exact ih (.inl (List.cons_ne_nil _ _))

theorem addressText_ne_nil (zeros n : Nat) : addressText zeros n ≠ [] :=
  List.append_ne_nil_of_right_ne_nil _ (hexDigitsFrom_ne_nil (.inr n.succ_pos))

/-- A reader of the digits has the number when it comes to the tail. -/
theorem foldl_hexDigitsFrom {fuel n : Nat} (enough : n < fuel) (tail : List Char) :
    (hexDigitsFrom fuel n tail).foldl (fun value c => value * 16 + hexDigitValue c) 0 =
      tail.foldl (fun value c => value * 16 + hexDigitValue c) n := by
  induction fuel generalizing n tail with
  | zero => omega
  | succ fuel ih =>
    rw [hexDigitsFrom]
    split
    · rename_i small
      rw [List.foldl_cons, hexDigitValue_hexDigit n small, Nat.zero_mul, Nat.zero_add]
    · rw [ih (by omega), List.foldl_cons, hexDigitValue_hexDigit _ (Nat.mod_lt _ (by decide)), Nat.div_add_mod' n 16]

theorem hexValue_addressText (zeros n : Nat) : hexValue (addressText zeros n) = n := by
  have zero (k : Nat) : (List.replicate k '0').foldl (fun value c => value * 16 + hexDigitValue c) 0 = 0 := by
    induction k with
    | zero => rfl
    | succ k ih => exact ih
  rw [hexValue, addressText, List.foldl_append, zero]
  exact foldl_hexDigitsFrom n.lt_succ_self []

theorem isHexDigit_of_mem_octetDigits {octet : UInt8} {c : Char} (there : c ∈ octetDigits octet) :
    isHexDigit c = true := by
  have high := octet.toNat_lt
  rcases List.mem_cons.mp there with rfl | there
  · exact isHexDigit_hexDigit _ (by omega)
  · rw [List.mem_singleton.mp there]
    exact isHexDigit_hexDigit _ (Nat.mod_lt _ (by decide))

theorem hexValue_octetDigits (octet : UInt8) : hexValue (octetDigits octet) = octet.toNat := by
  have high := octet.toNat_lt
  simp only [hexValue, octetDigits, List.foldl_cons, List.foldl_nil,
    hexDigitValue_hexDigit _ (Nat.mod_lt _ (by decide : 0 < 16)),
    hexDigitValue_hexDigit (octet.toNat / 16) (by omega)]
  omega

end AsmScope.Text
