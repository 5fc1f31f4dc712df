import AsmScope.Proofs.Compile.StoreEviction

/-! What a store answers, told from its history. An answer is the result that was last put under the key and taken, with
no clearing since; a key that was given up or cleared stays unknown until a result is taken under it again. Both rest on
what one use can do to an entry: it is new with a put that is taken, or it was there and neither that put nor a clearing
happened. -/

namespace AsmScope.Store

def Takes (capacity : Int) (before : List Use) (key : String) (r : Result) : Prop :=
  ((after capacity before).put key r).1 = true

def TakesWithin (capacity : Int) (before later : List Use) (key : String) : Prop :=
  ∃ first r, first ++ [.put key r] <+: later ∧ Takes capacity (before ++ first) key r

/-- The result is the last one that was taken under the key, and the store was not cleared since. -/
def LastTaken (capacity : Int) (uses : List Use) (key : String) (r : Result) : Prop :=
  ∃ before later, uses = before ++ .put key r :: later ∧ Takes capacity before key r ∧
    ¬ TakesWithin capacity (before ++ [.put key r]) later key ∧ ∀ u ∈ later, u ≠ .clear

/-- The use clears the store, or gives up what was held under the key. -/
def Drops (s : Store) (u : Use) (key : String) : Prop :=
  u = .clear ∨ s.contains key = true ∧ (s.use u).contains key = false

section Uses
variable {s : Store} {u : Use} {e : Stored} {key : String} {r : Result}

theorem get_fst (s : Store) (key : String) : (s.get key).1 = (s.find? key).map Stored.result := by
  rw [get]
  cases s.find? key <;> rfl

theorem fits_of_taken (taken : (s.put key r).1 = true) : (r.entrySize key : Int) ≤ s.capacity := by
  refine Int.not_lt.mp fun large => ?_
  rw [put_of_large large] at taken
  cases taken

theorem contains_of_mem (he : e ∈ s.entries) : s.contains e.key = true := by
  rw [contains, Option.isSome_iff_ne_none, ne_eq, find?_eq_none_iff, not_not]
  exact List.mem_map_of_mem he

theorem exists_of_contains (h : s.contains key = true) : ∃ e ∈ s.entries, e.key = key := by
  obtain ⟨e, found⟩ := Option.isSome_iff_exists.mp h
  exact ⟨e, mem_of_find? found⟩

/-- Whatever is held after a use is what the use puts, or was held before and is not touched. -/
theorem mem_use (h : e ∈ (s.use u).entries) :
    (u = .put e.key e.result ∧ (s.put e.key e.result).1 = true) ∨
    (e ∈ s.entries ∧ u ≠ .clear ∧ ∀ r, u = .put e.key r → (s.put e.key r).1 = false) := by
  cases u with
  | put key result =>
    by_cases large : s.capacity < (result.entrySize key : Int)
    · rw [use, put_of_large large] at h
      refine .inr ⟨h, Use.noConfusion, ?_⟩
      rintro r ⟨⟩
      rw [put_of_large large]
    · simp only [use, put, if_neg large, List.mem_append, List.mem_singleton] at h
      rcases h with h | rfl
      · obtain ⟨he, other⟩ := List.mem_filter.mp ((evict_suffix ..).mem h)
        refine .inr ⟨he, Use.noConfusion, ?_⟩
        rintro r ⟨⟩
        simp at other
      · exact .inl ⟨rfl, by simp only [put, if_neg large]⟩
  | get key => exact .inr ⟨mem_entries_of_mem_get h, Use.noConfusion, fun r => Use.noConfusion⟩
  | contains key => exact .inr ⟨h, Use.noConfusion, fun r => Use.noConfusion⟩
  | clear => cases h

end Uses

section History
variable {capacity : Int} {uses before later : List Use} {u : Use} {key : String} {r : Result}

theorem TakesWithin.concat (h : TakesWithin capacity before (later ++ [u]) key) :
    TakesWithin capacity before later key ∨ ∃ r, u = .put key r ∧ Takes capacity (before ++ later) key r := by
  obtain ⟨first, r, found, taken⟩ := h
  rcases List.prefix_concat_iff.mp found with whole | found
  · obtain ⟨rfl, same⟩ := List.append_inj' whole rfl
    exact .inr ⟨r, (List.singleton_inj.mp same).symm, taken⟩
  · exact .inl ⟨first, r, found, taken⟩

theorem TakesWithin.of_concat (h : TakesWithin capacity before later key) :
    TakesWithin capacity before (later ++ [u]) key := by
  obtain ⟨first, r, found, taken⟩ := h
  exact ⟨first, r, found.trans (List.prefix_append later [u]), taken⟩

theorem LastTaken.concat (h : LastTaken capacity uses key r) (kept : u ≠ .clear)
    (refused : ∀ r, u = .put key r → ¬ Takes capacity uses key r) : LastTaken capacity (uses ++ [u]) key r := by
  obtain ⟨before, later, rfl, taken, last, unclear⟩ := h
  refine ⟨before, later ++ [u], by simp, taken, fun within => ?_, ?_⟩
  · rcases within.concat with within | ⟨r', put, taken'⟩
    · exact last within
    · exact refused r' put (by simpa using taken')
  · intro v hv
    rcases List.mem_append.mp hv with hv | hv
    · exact unclear v hv
    · rwa [List.mem_singleton.mp hv]

theorem lastTaken_of_mem {e : Stored} (he : e ∈ (after capacity uses).entries) :
    LastTaken capacity uses e.key e.result := by
  induction uses using List.reverseRecOn with
  | nil => cases he
  | append_singleton uses u ih =>
    rw [after_concat] at he
    -- Either the last use took it, or it was there before and the last use neither took another nor cleared.
    rcases mem_use he with ⟨rfl, taken⟩ | ⟨he, kept, refused⟩
    · refine ⟨uses, [], rfl, taken, ?_, fun u hu => absurd hu List.not_mem_nil⟩
      rintro ⟨first, r, found, -⟩
      simp at found
    · refine (ih he).concat kept fun r put taken => ?_
      rw [Takes, refused r put] at taken
      cases taken

theorem contains_append_eq_false (absent : (after capacity before).contains key = false)
    (never : ¬ TakesWithin capacity before later key) : (after capacity (before ++ later)).contains key = false := by
  induction later using List.reverseRecOn with
  | nil => rwa [List.append_nil]
  | append_singleton later u ih =>
    have before_absent := ih fun within => never within.of_concat
    rw [← List.append_assoc, after_concat, Bool.eq_false_iff]
    intro held
    obtain ⟨e, he, rfl⟩ := exists_of_contains held
    rcases mem_use he with ⟨rfl, taken⟩ | ⟨he, -, -⟩
    · exact never ⟨later, e.result, List.prefix_refl _, taken⟩
    · rw [contains_of_mem he] at before_absent
      cases before_absent

theorem contains_of_drops (h : Drops (after capacity before) u key) :
    (after capacity (before ++ [u])).contains key = false := by
  rw [after_concat]
  rcases h with rfl | ⟨-, gone⟩
  · rfl
  · exact gone

end History

/-- After any uses of a new store, the answer for a key is none or the result that was taken last under it, with no
clearing since. Once the key was given up or cleared there is no answer, until a result is taken under it again; and a
result that is taken is the answer right after. -/
theorem answers_of_history (capacity : Int) (uses : List Use) (key : String) :
    (∀ r, ((after capacity uses).get key).1 = some r → LastTaken capacity uses key r) ∧
    (∀ before u later, uses = before ++ u :: later → Drops (after capacity before) u key →
      ¬ TakesWithin capacity (before ++ [u]) later key →
      ((after capacity uses).get key).1 = none ∧ (after capacity uses).contains key = false) ∧
    ∀ r, Takes capacity uses key r →
      ((after capacity (uses ++ [.put key r])).get key).1 = some r ∧
      (after capacity (uses ++ [.put key r])).contains key = true := by
  refine ⟨fun r answered => ?_, ?_, fun r taken => ?_⟩
  · rw [get_fst, Option.map_eq_some_iff] at answered
    obtain ⟨e, found, rfl⟩ := answered
    obtain ⟨he, rfl⟩ := mem_of_find? found
    exact lastTaken_of_mem he
  · rintro before u later rfl dropped never
    have absent := contains_append_eq_false (contains_of_drops dropped) never
    rw [List.append_assoc, List.singleton_append] at absent
    rw [contains, Option.isSome_eq_false_iff, Option.isNone_iff_eq_none] at absent
    rw [get_fst, contains, absent]
    exact ⟨rfl, rfl⟩
  · have found := find?_put (fits_of_taken taken)
    rw [after_concat, get_fst, contains, use, found]
    exact ⟨rfl, rfl⟩

def twoHeld : List Use := [.put "a" shortResult, .put "b" shortResult, .get "a"]

/-- Room for two results: `"a"` is asked for, so `"b"` is given up for the third, and unknown from then on. -/
theorem answers_of_history_givenUp :
    Drops (after 140 twoHeld) (.put "c" shortResult) "b" ∧
    ((after 140 (twoHeld ++ [.put "c" shortResult, .contains "b"])).get "b").1 = none ∧
    LastTaken 140 (twoHeld ++ [.put "c" shortResult, .contains "b"]) "a" shortResult := by
  have a : shortResult.entrySize "a" = 70 := entrySize_shortResult rfl
  have b : shortResult.entrySize "b" = 70 := entrySize_shortResult rfl
  have c : shortResult.entrySize "c" = 70 := entrySize_shortResult rfl
  have held : after 140 twoHeld = ⟨140, [⟨"b", shortResult, 70⟩, ⟨"a", shortResult, 70⟩], 140⟩ := by
    simp [after, twoHeld, use, put, Store.get, a, b, empty, find?, without, evict]
  have left : (after 140 twoHeld).use (.put "c" shortResult) =
      ⟨140, [⟨"a", shortResult, 70⟩, ⟨"c", shortResult, 70⟩], 140⟩ := by
    simp [held, use, put, c, find?, without, evict]
  have dropped : Drops (after 140 twoHeld) (.put "c" shortResult) "b" := by
    rw [Drops, left, held]
    exact .inr ⟨rfl, rfl⟩
  have never : ¬ TakesWithin 140 (twoHeld ++ [.put "c" shortResult]) [.contains "b"] "b" := by
    rintro ⟨first, r, found, -⟩
    have there := found.subset (List.mem_append_right first (List.mem_singleton_self _))
    cases List.mem_singleton.mp there
  have known : ((after 140 (twoHeld ++ [.put "c" shortResult, .contains "b"])).get "a").1 = some shortResult := by
    rw [after, List.foldl_append, ← after, List.foldl_cons, left]
    rfl
  exact ⟨dropped, ((answers_of_history 140 _ "b").2.1 twoHeld _ _ rfl dropped never).1,
    (answers_of_history 140 _ "a").1 _ known⟩

end AsmScope.Store
