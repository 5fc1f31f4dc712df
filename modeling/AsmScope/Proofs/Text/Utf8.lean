import AsmScope.Text.Utf8
import Mathlib.Data.List.Basic

/-! Reading what was written. A reader of octets comes to the end of a character with the last octet of it and no
earlier, so it gives back the characters of a text, and one replacement for a character that is cut off at the end. -/

namespace AsmScope.Text

/-- With these octets, and no earlier, what is pending becomes a character. -/
inductive Completes : Option Pending → Octets → Char → Prop
  | last {pending octet c} : readOctet pending octet = ([c], none) → Completes pending [octet] c
  | more {pending octet p rest c} : readOctet pending octet = ([], some p) → Completes (some p) rest c →
      Completes pending (octet :: rest) c

namespace Completes
variable {pending : Option Pending} {octets part r : Octets} {c : Char}

theorem decodeFrom_append (completes : Completes pending octets c) :
    decodeFrom pending (octets ++ r) = c :: decodeFrom none r := by
  induction completes with
  | last read => simp [decodeFrom, read]
  | more read _ ih => simp [decodeFrom, read, ih]

theorem decodeFrom_nil (begun : pending.isSome = true) : decodeFrom pending [] = [replacement] := by
  obtain ⟨p, rfl⟩ := Option.isSome_iff_exists.mp begun
  rfl

theorem decodeFrom_part (completes : Completes pending octets c) (cut : part <+: octets) (proper : part ≠ octets)
    (begun : pending.isSome = true ∨ part ≠ []) : decodeFrom pending part = [replacement] := by
  induction completes generalizing part with
  | last read =>
    obtain rfl : part = [] := List.prefix_nil.mp ((List.prefix_concat_iff.mp cut).resolve_left proper)
    exact decodeFrom_nil (begun.resolve_right (not_not_intro rfl))
  | more read _ ih =>
    cases part with
    | nil => exact decodeFrom_nil (begun.resolve_right (not_not_intro rfl))
    | cons octet part =>
      obtain ⟨rfl, inside⟩ := List.cons_prefix_cons.mp cut
      have rest := ih inside (fun same => proper (congrArg _ same)) (.inl rfl)
      simp only [decodeFrom, read, rest, List.nil_append]

end Completes

section Reading
variable {n v code low high m : Nat} {octet : UInt8} {p : Pending} {r : Octets} {c : Char}

theorem completes_single (value : octet.toNat = n) (single : n < 0x80) : Completes none [octet] (Char.ofNat n) := by
  refine .last ?_
  rw [readOctet, value, start, if_pos single]
  rfl

theorem completes_first (value : octet.toNat = n) (first : start n = (none, some p)) (rest : Completes (some p) r c) :
    Completes none (octet :: r) c := by
  refine .more ?_ rest
  rw [readOctet, value, first, Option.toList_none]

theorem completes_more (value : octet.toNat = n) (least : low ≤ n) (most : n ≤ high) (told : code * 64 + n % 64 = v)
    (rest : Completes (some ⟨m + 1, 0x80, 0xBF, v⟩) r c) : Completes (some ⟨m + 2, low, high, code⟩) (octet :: r) c := by
  refine .more ?_ rest
  have unended : ¬ m + 2 ≤ 1 := by omega
  simp only [readOctet, value, least, most, told, unended, and_self, if_true, if_false, Nat.add_one_sub_one]

theorem completes_last (value : octet.toNat = n) (least : low ≤ n) (most : n ≤ high) (told : code * 64 + n % 64 = v) :
    Completes (some ⟨1, low, high, code⟩) [octet] (Char.ofNat v) := by
  refine .last ?_
  simp only [readOctet, value, least, most, told, and_self, if_true, Nat.le_refl]

theorem start_double (least : 0xC2 ≤ n) (below : n < 0xE0) : start n = (none, some ⟨1, 0x80, 0xBF, n - 0xC0⟩) := by
  rw [start, if_neg (by omega), if_neg (by omega), if_pos below]

theorem start_triple (least : 0xE0 ≤ n) (below : n < 0xF0) : start n =
    (none, some ⟨2, if n = 0xE0 then 0xA0 else 0x80, if n = 0xED then 0x9F else 0xBF, n - 0xE0⟩) := by
  rw [start, if_neg (by omega), if_neg (by omega), if_neg (by omega), if_pos below]

theorem start_quadruple (least : 0xF0 ≤ n) (below : n < 0xF5) : start n =
    (none, some ⟨3, if n = 0xF0 then 0x90 else 0x80, if n = 0xF4 then 0x8F else 0xBF, n - 0xF0⟩) := by
  rw [start, if_neg (by omega), if_neg (by omega), if_neg (by omega), if_neg (by omega), if_pos below]

end Reading

theorem completes_utf8EncodeChar (c : Char) : Completes none (String.utf8EncodeChar c) c := by
  have same : Char.ofNat c.val.toNat = c := Char.ofNat_toNat c
  have valid : c.val.toNat < 0xD800 ∨ 0xDFFF < c.val.toNat ∧ c.val.toNat < 0x110000 := c.valid
  have small {n : Nat} (fits : n < 256) : (UInt8.ofNat n).toNat = n := by simp [Nat.mod_eq_of_lt fits]
  unfold String.utf8EncodeChar
  generalize c.val.toNat = v at same valid
  subst same
  dsimp only
  split
  · exact completes_single (small (by omega)) (by omega)
  split
  · refine completes_first (small (by omega)) (start_double (by omega) (by omega)) ?_
    exact completes_last (small (by omega)) (by omega) (by omega) (by omega)
  split
  · refine completes_first (small (by omega)) (start_triple (by omega) (by omega)) ?_
    refine completes_more (small (by omega)) (by split <;> omega) (by split <;> omega) rfl ?_
    exact completes_last (small (by omega)) (by omega) (by omega) (by omega)
  · refine completes_first (small (by omega)) (start_quadruple (by omega) (by omega)) ?_
    refine completes_more (small (by omega)) (by split <;> omega) (by split <;> omega) rfl ?_
    refine completes_more (small (by omega)) (by omega) (by omega) rfl ?_
    exact completes_last (small (by omega)) (by omega) (by omega) (by omega)

section Text
variable {s : List Char} {c : Char} {r part : Octets}

theorem encode_cons : encode (c :: s) = String.utf8EncodeChar c ++ encode s := rfl

theorem decodeFrom_encode_append : decodeFrom none (encode s ++ r) = s ++ decodeFrom none r := by
  induction s with
  | nil => rfl
  | cons c s ih =>
    rw [encode_cons, List.append_assoc, (completes_utf8EncodeChar c).decodeFrom_append, ih, List.cons_append]

theorem decoded_encode_append_part (cut : part <+: String.utf8EncodeChar c) (proper : part ≠ String.utf8EncodeChar c) :
    decoded (encode s ++ part) = String.ofList (if part = [] then s else s ++ [replacement]) := by
  rw [decoded, decode, decodeFrom_encode_append]
  split
  · rename_i nothing
    rw [nothing, decodeFrom, List.append_nil]
  · rename_i begun
    rw [(completes_utf8EncodeChar c).decodeFrom_part cut proper (.inr begun)]

end Text

end AsmScope.Text
