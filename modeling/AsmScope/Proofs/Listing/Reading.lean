import AsmScope.Listing.View
import AsmScope.Proofs.Text.Numeral

/-! When a text can be read. All that can go wrong is a numeral that is too long, so that reading fails with the first of
these or gives the listing. Nothing but the entries of files, the location lines and the places of a disassembly hold
numerals that are read, and the filters do not matter but for the one that tells the two kinds of text apart. -/

namespace AsmScope.Listing
open AsmScope.Text

/-- No numeral that is read in the text is too long. -/
def IsLegible (f : Filters) (text : String) : Prop :=
  ∀ digits ∈ numerals f (listingLines text.toList), digits.length ≤ maxDigits

instance (f : Filters) (text : String) : Decidable (IsLegible f text) :=
  inferInstanceAs (Decidable (∀ digits ∈ numerals f (listingLines text.toList), digits.length ≤ maxDigits))

variable {view : View} {f g : Filters} {text : String} {listed : List Line}

theorem read_eq_ok_iff : read view f text = .ok listed ↔ IsLegible f text ∧ listed = ofText view f text := by
  rw [IsLegible, ← longNumeral?_eq_none_iff, read]
  split
  · rename_i e found
    simp [found]
  · rename_i none
    rw [Except.ok.injEq, and_iff_right none, eq_comm]

theorem read_eq_error_iff {e : LongNumeral} :
    read view f text = .error e ↔
      ∃ before digits after, numerals f (listingLines text.toList) = before ++ digits :: after ∧
        (∀ shorter ∈ before, shorter.length ≤ maxDigits) ∧ maxDigits < digits.length ∧ e = ⟨digits.length⟩ := by
  rw [← longNumeral?_eq_some_iff, read]
  split
  · rename_i e' found
    rw [found, Except.error.injEq, Option.some.injEq]
  · rename_i none
    simp [none]

theorem read_of_legible (legible : IsLegible f text) : read view f text = .ok (ofText view f text) :=
  read_eq_ok_iff.mpr ⟨legible, rfl⟩

theorem read_of_illegible (illegible : ¬ IsLegible f text) : ∃ e, read view f text = .error e := by
  cases outcome : read view f text with
  | ok listed => exact absurd (read_eq_ok_iff.mp outcome).1 illegible
  | error e => exact ⟨e, rfl⟩

theorem read_of {p : List Line → Prop} (h : p (ofText view f text)) :
    (IsLegible f text → ∃ listed, read view f text = .ok listed ∧ p listed) ∧
      (¬ IsLegible f text → ∃ e, read view f text = .error e) :=
  ⟨fun legible => ⟨_, read_of_legible legible, h⟩, read_of_illegible⟩

/-- Of the filters only the one for the kind of the text decides what numerals are read. -/
theorem numerals_congr (same : f.binary = g.binary) (lines : List (List Char)) :
    numerals f lines = numerals g lines := by
  rw [numerals, numerals, same]

theorem isLegible_congr (same : f.binary = g.binary) : IsLegible f text ↔ IsLegible g text := by
  rw [IsLegible, IsLegible, numerals_congr same]

theorem read_error_congr (same : f.binary = g.binary) {e : LongNumeral} (h : read view f text = .error e) :
    read view g text = .error e := by
  rw [read_eq_error_iff] at h ⊢
  rwa [← numerals_congr same]

end AsmScope.Listing
