import AsmScope.Tool.Capture
import AsmScope.Proofs.Text.Utf8
import Mathlib.Order.Basic

/-! What is kept of a stream. The state of a capture is told by the octets that came, not by the chunks they came in:
those within the limit are kept, and the capture is cut off once there are more. One chunk is told to cross the limit,
the first one with which there are more octets than it allows. -/

namespace AsmScope.Capture
open AsmScope.Text

def ofOctets (limit : Nat) (octets : Octets) : Capture :=
  ⟨limit, octets.take limit, decide (limit < octets.length)⟩

/-- A chunk that comes after some octets crosses the limit if there are too many with it, but not without it. -/
def crosses (limit : Nat) (octets chunk : Octets) : Bool :=
  octets.length ≤ limit && limit < (octets ++ chunk).length

def feedAll : Capture → List Octets → List Bool × Capture
  | c, [] => ([], c)
  | c, chunk :: rest => ((c.feed chunk).1 :: (feedAll (c.feed chunk).2 rest).1, (feedAll (c.feed chunk).2 rest).2)

section Octets
variable {limit : Nat} {octets chunk : Octets} {chunks : List Octets}

@[simp] theorem ofOctets_nil : ofOctets limit [] = empty limit := by simp [ofOctets, empty]

theorem text_ofOctets : (ofOctets limit octets).text =
    decoded (octets.take limit) ++ if limit < octets.length then truncationMark else "" := by
  rw [text, ofOctets]
  rcases Nat.lt_or_ge limit octets.length with beyond | within
  · simp only [beyond, decide_true, if_true]
  · simp only [Nat.not_lt.mpr within, decide_false, Bool.false_eq_true, if_false, String.append_empty]

theorem crosses_iff :
    crosses limit octets chunk = true ↔ octets.length ≤ limit ∧ limit < octets.length + chunk.length := by
  simp only [crosses, Bool.and_eq_true, decide_eq_true_eq, List.length_append]

theorem feed_of_over (beyond : limit < octets.length) :
    (ofOctets limit octets).feed chunk = (false, ofOctets limit (octets ++ chunk)) := by
  have kept : (octets ++ chunk).take limit = octets.take limit := List.take_append_of_le_length (Nat.le_of_lt beyond)
  have more : limit < (octets ++ chunk).length := by
    rw [List.length_append]
    omega
  simp only [feed, ofOctets, beyond, kept, more, decide_true, if_true]

theorem feed_of_within (within : octets.length ≤ limit) :
    (ofOctets limit octets).feed chunk =
      (decide (limit < (octets ++ chunk).length), ofOctets limit (octets ++ chunk)) := by
  have whole : octets.take limit = octets := List.take_of_length_le within
  simp only [feed, ofOctets, whole, Nat.not_lt.mpr within, decide_false, Bool.false_eq_true, if_false]
  split
  · rename_i room
    have crossed : limit < (octets ++ chunk).length := by
      rw [List.length_append]
      omega
    simp only [crossed, List.take_append, whole, decide_true]
  · rename_i room
    have fits : (octets ++ chunk).length ≤ limit := by
      rw [List.length_append]
      omega
    simp only [Nat.not_lt.mpr fits, List.take_of_length_le fits, decide_false]

theorem feed_ofOctets :
    (ofOctets limit octets).feed chunk = (crosses limit octets chunk, ofOctets limit (octets ++ chunk)) := by
  rcases Nat.lt_or_ge limit octets.length with beyond | within
  · simp only [feed_of_over beyond, crosses, Nat.not_le.mpr beyond, decide_false, Bool.false_and]
  · simp only [feed_of_within within, crosses, within, decide_true, Bool.true_and]

theorem feedAll_ofOctets :
    ((ofOctets limit octets).feedAll chunks).2 = ofOctets limit (octets ++ chunks.flatten) := by
  induction chunks generalizing octets with
  | nil => simp [feedAll]
  | cons chunk rest ih => simp only [feedAll, feed_ofOctets, ih, List.flatten_cons, List.append_assoc]

theorem getElem?_feedAll (i : Nat) :
    ((ofOctets limit octets).feedAll chunks).1[i]? =
      chunks[i]?.map (crosses limit (octets ++ (chunks.take i).flatten)) := by
  induction chunks generalizing octets i with
  | nil => simp [feedAll]
  | cons chunk rest ih =>
    simp only [feedAll, feed_ofOctets]
    cases i with
    | zero => simp
    | succ i => simp only [List.getElem?_cons_succ, ih, List.take_succ_cons, List.flatten_cons, List.append_assoc]

theorem toNat_crosses_append (rest : Octets) :
    (crosses limit octets chunk).toNat + (crosses limit (octets ++ chunk) rest).toNat =
      (crosses limit octets (chunk ++ rest)).toNat := by
  rcases Nat.lt_or_ge limit (octets ++ chunk).length with beyond | within
  · have later : crosses limit (octets ++ chunk) rest = false := by
      simp only [crosses, Nat.not_le.mpr beyond, decide_false, Bool.false_and]
    have more : limit < (octets ++ (chunk ++ rest)).length := by
      simp only [List.length_append] at beyond ⊢
      omega
    rw [later, Bool.toNat_false, Nat.add_zero]
    simp only [crosses, beyond, more]
  · have start : octets.length ≤ limit := by
      rw [List.length_append] at within
      omega
    simp only [crosses, start, within, Nat.not_lt.mpr within, decide_true, decide_false, Bool.true_and,
      Bool.toNat_false, Nat.zero_add, List.append_assoc]

theorem count_feedAll :
    ((ofOctets limit octets).feedAll chunks).1.count true = (crosses limit octets chunks.flatten).toNat := by
  induction chunks generalizing octets with
  | nil =>
    have still : crosses limit octets [] = false := by
      rw [Bool.eq_false_iff, ne_eq, crosses_iff, List.length_nil]
      omega
    rw [List.flatten_nil, still]
    rfl
  | cons chunk rest ih =>
    have first : (crosses limit octets chunk).toNat = if crosses limit octets chunk == true then 1 else 0 := by
      cases crosses limit octets chunk <;> rfl
    simp only [feedAll, feed_ofOctets, List.count_cons, ih, List.flatten_cons, ← first]
    rw [Nat.add_comm, toNat_crosses_append]

end Octets

/-- A capture does not depend on how the octets were cut into chunks. The first ones are kept up to the limit, with a
mark after their text if there are more, and one chunk is told to cross the limit if there are more, the first one with
which there are. Characters are read as they were written, and one that the limit cuts off as a replacement. -/
theorem feedAll_empty_of_chunks (limit : Nat) (chunks : List Octets) :
    ((empty limit).feedAll chunks).2.text =
        decoded (chunks.flatten.take (min limit chunks.flatten.length)) ++
          (if limit < chunks.flatten.length then truncationMark else "") ∧
      ((empty limit).feedAll chunks).2.truncated = decide (limit < chunks.flatten.length) ∧
      ((empty limit).feedAll chunks).1.count true = (if limit < chunks.flatten.length then 1 else 0) ∧
      (∀ i, ((empty limit).feedAll chunks).1[i]? = some true ↔
        i < chunks.length ∧ (chunks.take i).flatten.length ≤ limit ∧ limit < (chunks.take (i + 1)).flatten.length) ∧
      (∀ s c part, part <+: String.utf8EncodeChar c → part ≠ String.utf8EncodeChar c →
        chunks.flatten.take limit = encode s ++ part →
        ((empty limit).feedAll chunks).2.text = String.ofList (if part = [] then s else s ++ [replacement]) ++
          (if limit < chunks.flatten.length then truncationMark else "")) ∧
      ∀ others : List Octets, others.flatten = chunks.flatten →
        ((empty limit).feedAll others).2.text = ((empty limit).feedAll chunks).2.text := by
  have kept (chunks : List Octets) : ((empty limit).feedAll chunks).2 = ofOctets limit chunks.flatten := by
    rw [← ofOctets_nil, feedAll_ofOctets, List.nil_append]
  refine ⟨?_, by rw [kept]; rfl, ?_, fun i => ?_, fun s c part cut proper spelt => ?_,
    fun others same => by rw [kept, kept, same]⟩
  · rw [kept, text_ofOctets, ← List.take_eq_take_min]
  · have crossed : crosses limit [] chunks.flatten = decide (limit < chunks.flatten.length) := by simp [crosses]
    rw [← ofOctets_nil, count_feedAll, crossed]
    by_cases beyond : limit < chunks.flatten.length
    · rw [if_pos beyond, decide_eq_true beyond, Bool.toNat_true]
    · rw [if_neg beyond, decide_eq_false beyond, Bool.toNat_false]
  · rw [← ofOctets_nil, getElem?_feedAll, List.nil_append, Option.map_eq_some_iff]
    constructor
    · rintro ⟨chunk, there, crossed⟩
      obtain ⟨inside, rfl⟩ := List.getElem?_eq_some_iff.mp there
      rw [List.take_succ_eq_append_getElem inside, List.flatten_concat, List.length_append]
      exact ⟨inside, crosses_iff.mp crossed⟩
    · rintro ⟨inside, crossed⟩
      rw [List.take_succ_eq_append_getElem inside, List.flatten_concat, List.length_append] at crossed
      exact ⟨chunks[i], List.getElem?_eq_getElem inside, crosses_iff.mpr crossed⟩
  · rw [kept, text_ofOctets, spelt, decoded_encode_append_part cut proper]

/-- A character in three chunks, and a limit in the middle of it. -/
theorem feedAll_empty_of_chunks_splitCharacter :
    [[0x61, 0xE2], [0x82], [0xAC, 0x62]].flatten = [[0x61, 0xE2, 0x82, 0xAC, (0x62 : UInt8)]].flatten ∧
      ((empty 3).feedAll [[0x61, 0xE2], [0x82], [0xAC, 0x62]]).2.text =
        ((empty 3).feedAll [[0x61, 0xE2, 0x82, 0xAC, 0x62]]).2.text ∧
      ((empty 3).feedAll [[0x61, 0xE2], [0x82], [0xAC, 0x62]]).2.text = "a\uFFFD\n[Truncated]" := by
  have same : [[0x61, 0xE2], [0x82], [0xAC, 0x62]].flatten = [[0x61, 0xE2, 0x82, 0xAC, (0x62 : UInt8)]].flatten := by
    rfl
  obtain ⟨-, -, -, -, cutOff, others⟩ := feedAll_empty_of_chunks 3 [[0x61, 0xE2, 0x82, 0xAC, 0x62]]
  have euro := cutOff ['a'] '€' [0xE2, 0x82] (by decide) (by decide) (by decide)
  exact ⟨same, others _ same, (others _ same).trans (euro.trans (by decide))⟩

end AsmScope.Capture
