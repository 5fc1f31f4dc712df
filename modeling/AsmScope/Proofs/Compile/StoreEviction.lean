import AsmScope.Proofs.Compile.StoreAccount

/-! What a store gives up for a new result, and what asking moves. The entries that stay are told without the loop that
finds them: they are the longest suffix that fits beside the new result, among the entries under other keys. The entry
that is replaced counts neither for the room nor among those given up. -/

namespace AsmScope

theorem sort_resultFields (code stdout stderr asm kept : Value) :
    ([("code", code), ("stdout", stdout), ("stderr", stderr), ("asm", asm), ("okToCache", kept)].mergeSort
        fun a b => !(decide (b.1 < a.1))) =
      [("asm", asm), ("code", code), ("okToCache", kept), ("stderr", stderr), ("stdout", stdout)] := by
  simp only [List.mergeSort, List.MergeSort.Internal.splitInTwo, List.length_cons, List.length_nil, Nat.reduceAdd,
    Nat.reduceDiv, List.splitAt_eq, List.take_succ_cons, List.take_zero, List.drop_succ_cons, List.drop_zero,
    String.reduceLT, decide_false, decide_true, Bool.not_false, Bool.not_true, Bool.false_eq_true, not_false_eq_true,
    List.cons_merge_cons_pos, List.cons_merge_cons_neg, List.nil_merge, List.merge_right]

theorem Result.sortKeys_toValue (r : Result) : r.toValue.sortKeys =
    .table [("asm", r.asm.toValue.sortKeys), ("code", .int (r.code.getD (-1))), ("okToCache", .bool r.okToCache),
      ("stderr", (Value.list (r.stderr.map Diagnostic.toValue)).sortKeys),
      ("stdout", (Value.list (r.stdout.map Diagnostic.toValue)).sortKeys)] := by
  simp only [Result.toValue, Value.sortKeys, Value.sortFields, sort_resultFields]

namespace Store

/-- The longest suffix of some entries that leaves room for as many octets as are needed. -/
structure LongestFitting (capacity : Int) (need : Nat) (entries kept : List Stored) : Prop where
  suffix : kept <:+ entries
  fits : ((weight kept + need : Nat) : Int) ≤ capacity
  longest : ∀ more, more <:+ entries → ((weight more + need : Nat) : Int) ≤ capacity → more <:+ kept

namespace LongestFitting
variable {capacity : Int} {need : Nat} {entries kept kept' : List Stored}

theorem unique (h : LongestFitting capacity need entries kept) (h' : LongestFitting capacity need entries kept') :
    kept = kept' :=
  (h'.longest kept h.suffix h.fits).eq_of_length_le (h.longest kept' h'.suffix h'.fits).length_le

theorem whole (fits : ((weight entries + need : Nat) : Int) ≤ capacity) :
    LongestFitting capacity need entries entries :=
  ⟨List.suffix_refl _, fits, fun _ suffix _ => suffix⟩

theorem cons {e : Stored} (full : capacity < ((weight (e :: entries) + need : Nat) : Int))
    (h : LongestFitting capacity need entries kept) : LongestFitting capacity need (e :: entries) kept where
  suffix := h.suffix.trans (List.suffix_cons e entries)
  fits := h.fits
  longest more suffix fits := by
    rcases List.suffix_cons_iff.mp suffix with rfl | suffix
    · exact absurd fits (Int.not_le.mpr full)
    · exact h.longest more suffix fits

end LongestFitting

/-- The loop stops at the longest suffix that fits, provided that the size it starts from is that of the entries. -/
theorem longestFitting_evict {capacity : Int} {need : Nat} (fits : (need : Int) ≤ capacity) (entries : List Stored) :
    LongestFitting capacity need entries (evict capacity need entries (weight entries)).1 := by
  induction entries with
  | nil => exact .whole (by simpa using fits)
  | cons e rest ih =>
    rw [evict]
    split
    · rename_i full
      rw [weight_cons, Nat.add_sub_cancel_left]
      exact ih.cons full
    · rename_i room
      exact .whole (Int.not_lt.mp room)

theorem put_of_fits {s : Store} (sound : Sound s) {key : String} {result : Result}
    (fits : (result.entrySize key : Int) ≤ s.capacity) :
    ∃ kept, LongestFitting s.capacity (result.entrySize key) (without key s.entries) kept ∧
      s.put key result = (true, ⟨s.capacity, kept ++ [⟨key, result, result.entrySize key⟩],
        weight kept + result.entrySize key⟩) := by
  refine ⟨_, longestFitting_evict fits _, ?_⟩
  simp only [put, if_neg (Int.not_lt.mpr fits), sound.weight_without key, evict_weight]

theorem find?_of_mem {s : Store} (keys : s.keys.Nodup) {e : Stored} (he : e ∈ s.entries) : s.find? e.key = some e := by
  cases found : s.find? e.key with
  | none => exact absurd (List.mem_map_of_mem he) ((find?_eq_none_iff s e.key).mp found)
  | some e' =>
    obtain ⟨he', same⟩ := mem_of_find? found
    rw [List.inj_on_of_nodup_map keys he' he same]

theorem without_middle {before later : List Stored} {e : Stored}
    (keys : ((before ++ e :: later).map Stored.key).Nodup) :
    without e.key (before ++ e :: later) = before ++ later := by
  rw [List.map_append, List.map_cons] at keys
  obtain ⟨absent, -⟩ := List.nodup_cons.mp (List.nodup_middle.mp keys)
  rw [← List.map_append] at absent
  have others := without_of_not_mem absent
  simpa only [without, List.filter_append, List.filter_cons, ne_eq, not_true, decide_false, Bool.false_eq_true,
    if_false] using others

theorem get_of_middle {s : Store} (keys : s.keys.Nodup) {before later : List Stored} {e : Stored}
    (entries : s.entries = before ++ e :: later) :
    s.get e.key = (some e.result, { s with entries := before ++ later ++ [e] }) := by
  have he : e ∈ s.entries := entries ▸ List.mem_append_right _ (List.mem_cons_self ..)
  rw [Store.keys, entries] at keys
  rw [get_of_find? (find?_of_mem (by rwa [Store.keys, entries]) he), entries, without_middle keys]

theorem entries_after_of_neg {capacity : Int} (neg : capacity < 0) (uses : List Use) :
    (after capacity uses).entries = [] := by
  refine List.eq_nil_iff_forall_not_mem.mpr ?_
  induction uses using List.reverseRecOn with
  | nil => exact fun e => List.not_mem_nil
  | append_singleton uses u ih =>
    intro e he
    rw [after_concat] at he
    cases u with
    | put key result =>
      have large : (after capacity uses).capacity < (result.entrySize key : Int) := by
        rw [after_capacity]
        omega
      rw [use, put_of_large large] at he
      exact ih e he
    | get key => exact ih e (mem_entries_of_mem_get he)
    | contains key => exact ih e he
    | clear => cases he

theorem keys_after_nodup (capacity : Int) (uses : List Use) : (after capacity uses).keys.Nodup := by
  by_cases neg : capacity < 0
  · rw [keys, entries_after_of_neg neg]
    exact List.nodup_nil
  · exact (sound_after (Int.not_lt.mp neg) uses).keys

/-- A result that is larger than the capacity is refused and changes nothing. Any other is put at the end, behind as
many of the latest entries under other keys as fit beside it. Asking for a key that is held moves its entry to the end
and changes nothing else, and asking for any other key changes nothing. -/
theorem put_keeps_longest (capacity : Int) (uses : List Use) (key : String) (result : Result) :
    (capacity < (result.entrySize key : Int) → (after capacity uses).put key result = (false, after capacity uses)) ∧
    ((result.entrySize key : Int) ≤ capacity → ∃ kept,
      LongestFitting capacity (result.entrySize key) (without key (after capacity uses).entries) kept ∧
      (after capacity uses).put key result = (true, ⟨capacity, kept ++ [⟨key, result, result.entrySize key⟩],
        weight kept + result.entrySize key⟩)) ∧
    (∀ before e later, (after capacity uses).entries = before ++ e :: later → e.key = key →
      (after capacity uses).get key =
        (some e.result, { after capacity uses with entries := before ++ later ++ [e] })) ∧
    (key ∉ (after capacity uses).keys → (after capacity uses).get key = (none, after capacity uses)) := by
  have same := after_capacity capacity uses
  refine ⟨fun large => put_of_large (by rwa [same]), fun fits => ?_, ?_, fun absent => ?_⟩
  · have nonneg : 0 ≤ capacity := Int.le_trans (Int.natCast_nonneg _) fits
    simpa only [same] using put_of_fits (sound_after nonneg uses) (by rwa [same])
  · rintro before e later entries rfl
    exact get_of_middle (keys_after_nodup capacity uses) entries
  · exact get_of_find?_none ((find?_eq_none_iff _ key).mpr absent)

theorem entrySize_plain (key text : String) : Result.entrySize key { code := some 0, asm := .plain text } =
    (Json.render Json.compact (.table [("asm", .table [("text", .string text)]), ("code", .int 0),
      ("okToCache", .bool true), ("stderr", .list []), ("stdout", .list [])])).utf8ByteSize + key.utf8ByteSize := by
  rw [Result.entrySize, Json.renderSorted, Result.sortKeys_toValue]
  simp [Assembly.toValue, Value.sortKeys, Value.sortFields, Value.sortItems]

theorem entrySize_shortResult {key : String} (one : key.utf8ByteSize = 1) : shortResult.entrySize key = 70 := by
  refine (entrySize_plain key "").trans ?_
  rw [one]
  decide +kernel

def threeShort : List Use := [.put "a" shortResult, .put "b" shortResult, .put "c" shortResult]

theorem entries_threeShort : (after 239 threeShort).entries =
    [⟨"a", shortResult, 70⟩, ⟨"b", shortResult, 70⟩, ⟨"c", shortResult, 70⟩] := by
  have a : shortResult.entrySize "a" = 70 := entrySize_shortResult rfl
  have b : shortResult.entrySize "b" = 70 := entrySize_shortResult rfl
  have c : shortResult.entrySize "c" = 70 := entrySize_shortResult rfl
  simp [after, threeShort, use, put, a, b, c, empty, find?, without, evict]

/-- The result under `"b"` is replaced by a longer one, which leaves no octet over and yet drives out nothing. -/
theorem put_keeps_longest_exactly :
    (longResult.entrySize "b" : Int) ≤ 239 ∧
    ((after 239 threeShort).put "b" longResult).2.keys = ["a", "c", "b"] ∧
    ((after 239 threeShort).put "b" longResult).2.size = 239 := by
  have need : longResult.entrySize "b" = 99 := (entrySize_plain "b" _).trans (by decide +kernel)
  have fits : (longResult.entrySize "b" : Int) ≤ 239 := by rw [need]; decide
  obtain ⟨kept, held, put⟩ := (put_keeps_longest 239 threeShort "b" longResult).2.1 fits
  have all : kept = [⟨"a", shortResult, 70⟩, ⟨"c", shortResult, 70⟩] := by
    rw [need, entries_threeShort] at held
    exact held.unique (.whole (by decide))
  refine ⟨fits, ?_, ?_⟩
  · rw [put, all]
    rfl
  · rw [put, all, need]
    rfl

end Store
end AsmScope
