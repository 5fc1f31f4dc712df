import AsmScope.Proofs.Text.Layout
import AsmScope.Text.Numeral

/-! Runs of characters, and numbers written as runs of digits. A run is read as far as it goes if the character after
it is of another sort, and a number comes back from its digits. -/

namespace AsmScope.Text

section Runs
variable {p : Char → Bool} {run rest : List Char} (all : ∀ c ∈ run, p c = true) (ends : ∀ c ∈ rest.head?, p c = false)
include all ends

theorem takeWhile_run : (run ++ rest).takeWhile p = run := by
  rw [List.takeWhile_append_of_pos all]
  cases rest with
  | nil => simp
  | cons c rest => simp [ends c rfl]

theorem dropWhile_run : (run ++ rest).dropWhile p = rest := by
  rw [List.dropWhile_append_of_pos all]
  cases rest with
  | nil => rfl
  | cons c rest => simp [ends c rfl]

end Runs

theorem someBlank?_eq_some_iff {s rest : List Char} :
    someBlank? s = some rest ↔
      ∃ blanks, s = blanks ++ rest ∧ blanks ≠ [] ∧ (∀ c ∈ blanks, isBlank c = true) ∧
        ∀ c ∈ rest.head?, isBlank c = false := by
  constructor
  · intro read
    cases s with
    | nil => cases read
    | cons c s =>
      rw [someBlank?] at read
      split at read
      · rename_i blank
        obtain rfl := Option.some.inj read
        refine ⟨c :: s.takeWhile isBlank, ?_, List.cons_ne_nil _ _, ?_, fun d first => ?_⟩
        · rw [List.cons_append, dropBlank, List.takeWhile_append_dropWhile]
        · exact List.forall_mem_cons.mpr ⟨blank, fun d => List.mem_takeWhile_imp⟩
        · cases begins : dropBlank s with
          | nil =>
            rw [begins] at first
            cases first
          | cons e r =>
            rw [begins] at first
            obtain rfl := Option.some.inj first
            exact isBlank_head_of_dropBlank begins
      · cases read
  · rintro ⟨blanks, rfl, filled, all, ends⟩
    cases blanks with
    | nil => exact absurd rfl filled
    | cons c blanks =>
      obtain ⟨blank, all⟩ := List.forall_mem_cons.mp all
      rw [List.cons_append, someBlank?, if_pos blank, dropBlank, dropWhile_run all ends]

theorem isAsciiDigit_iff (c : Char) : isAsciiDigit c = true ↔ 48 ≤ c.toNat ∧ c.toNat ≤ 57 := by
  simp only [isAsciiDigit, Bool.and_eq_true, decide_eq_true_eq, Char.le_def, UInt32.le_iff_toNat_le]
  rfl

theorem digitValue?_of_isAsciiDigit {c : Char} (h : isAsciiDigit c = true) : digitValue? c = some (c.toNat - 48) := by
  obtain ⟨low, high⟩ := (isAsciiDigit_iff c).mp h
  simp only [digitValue?]
  rw [if_pos (by omega), if_pos ⟨low, high⟩]

theorem isDigit_of_isAsciiDigit {c : Char} (h : isAsciiDigit c = true) : isDigit c = true := by
  rw [isDigit, digitValue?_of_isAsciiDigit h]
  rfl

theorem decimalValue_eq_ofDigitChars {s : List Char} (digits : ∀ c ∈ s, isAsciiDigit c = true) :
    decimalValue s = Nat.ofDigitChars 10 s 0 := by
  have step (value : Nat) : s.foldl (fun value c => value * 10 + (digitValue? c).getD 0) value =
      Nat.ofDigitChars 10 s value := by
    induction s generalizing value with
    | nil => rfl
    | cons c s ih =>
      have value' : value * 10 + (digitValue? c).getD 0 = 10 * value + (c.toNat - '0'.toNat) := by
        rw [digitValue?_of_isAsciiDigit (digits c (List.mem_cons_self ..)), Nat.mul_comm]
        rfl
      rw [List.foldl_cons, value', ih fun d hd => digits d (List.mem_cons_of_mem _ hd)]
      rfl
  exact step 0

theorem isAsciiDigit_toDigits {n : Nat} {c : Char} (h : c ∈ Nat.toDigits 10 n) : isAsciiDigit c = true := by
  have digit := Nat.isDigit_of_mem_toDigits (by decide) (by decide) h
  simp only [Char.isDigit, Bool.and_eq_true, decide_eq_true_eq] at digit
  rw [isAsciiDigit_iff]
  exact digit

theorem decimalValue_toDigits (n : Nat) : decimalValue (Nat.toDigits 10 n) = n := by
  rw [decimalValue_eq_ofDigitChars fun c => isAsciiDigit_toDigits]
  exact Nat.ofDigitChars_toDigits (by decide) (by decide)

theorem isAsciiDigit_of_mem_toString {n : Nat} {c : Char} (there : c ∈ (toString n).toList) : isAsciiDigit c = true :=
  isAsciiDigit_toDigits (n := n) (by simpa using there)

theorem eq_of_toString_eq {n k : Nat} (same : toString n = toString k) : n = k := by
  have digits : Nat.toDigits 10 n = Nat.toDigits 10 k := by simpa using congrArg String.toList same
  rw [← decimalValue_toDigits n, digits, decimalValue_toDigits]

theorem longNumeral?_eq_none_iff {numerals : List (List Char)} :
    longNumeral? numerals = none ↔ ∀ digits ∈ numerals, digits.length ≤ maxDigits := by
  simp [longNumeral?]

theorem longNumeral?_eq_some_iff {numerals : List (List Char)} {e : LongNumeral} :
    longNumeral? numerals = some e ↔
      ∃ before digits after, numerals = before ++ digits :: after ∧
        (∀ shorter ∈ before, shorter.length ≤ maxDigits) ∧ maxDigits < digits.length ∧ e = ⟨digits.length⟩ := by
  simp only [longNumeral?, Option.map_eq_some_iff, List.find?_eq_some_iff_append, decide_eq_true_eq, Bool.not_eq_true',
    decide_eq_false_iff_not, Nat.not_lt]
  constructor
  · rintro ⟨digits, ⟨long, before, after, parts, short⟩, rfl⟩
    exact ⟨before, digits, after, parts, short, long, rfl⟩
  · rintro ⟨before, digits, after, parts, short, long, rfl⟩
    exact ⟨digits, ⟨long, before, after, parts, short⟩, rfl⟩

end AsmScope.Text
