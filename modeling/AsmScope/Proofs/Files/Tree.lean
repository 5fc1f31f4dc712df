import AsmScope.Files.Tree
import AsmScope.Proofs.Path

/-! Where paths lead, and what becomes of places. Only the names of a path decide where it can lead; the tree decides
whether it gets there. A directory that is removed cannot be reached any more, unless paths begin there. -/

namespace AsmScope.FileTree

/-- Where names lead if every step can be taken. -/
def destination : Location → List String → Location
  | here, [] => here
  | here, name :: rest =>
    if name = "" ∨ name = "." then destination here rest
    else if name = ".." then destination here.tail rest
    else destination (name :: here) rest

def following (here : Location) (name : String) : Location :=
  if name = "" ∨ name = "." then here else if name = ".." then here.tail else name :: here

theorem destination_cons (here : Location) (name : String) (rest : List String) :
    destination here (name :: rest) = destination (following here name) rest := by
  rw [destination, following]
  split
  · rfl
  · split <;> rfl

theorem has_of_isDirectory {t : FileTree} {place : Location} (h : t.isDirectory place = true) : t.has place = true := by
  rw [isDirectory, Option.any_eq_true] at h
  obtain ⟨n, there, -⟩ := h
  rw [has, there]
  rfl

theorem walk_cons_eq_ok_iff {t : FileTree} {here place : Location} {name : String} {rest : List String} :
    t.walk here (name :: rest) = .ok place ↔
      t.isDirectory here = true ∧ name.utf8ByteSize ≤ maxNameLength ∧ t.walk (following here name) rest = .ok place := by
  rw [walk, following]
  by_cases directory : t.isDirectory here = true
  · rw [has_of_isDirectory directory, directory]
    simp only [Bool.not_true, Bool.false_eq_true, if_false, true_and]
    split
    · rename_i skipped
      have short : name.utf8ByteSize ≤ maxNameLength := by
        rcases skipped with rfl | rfl <;> decide
      rw [and_iff_right short]
    split
    · rename_i outwards
      rw [and_iff_right (by rw [outwards]; decide)]
    · split
      · rename_i long
        simp [Nat.not_le.mpr long]
      · rename_i short
        rw [and_iff_right (Nat.not_lt.mp short)]
  · by_cases there : t.has here = true <;> simp [there, directory]

theorem walk_eq_ok {t : FileTree} {here place : Location} {names : List String} (h : t.walk here names = .ok place) :
    place = destination here names := by
  induction names generalizing here with
  | nil => exact (Except.ok.inj h).symm
  | cons name rest ih =>
    obtain ⟨-, -, onwards⟩ := walk_cons_eq_ok_iff.mp h
    rw [destination_cons]
    exact ih onwards

theorem destination_filter (here : Location) (names : List String) :
    destination here (names.filter fun name => name ≠ "" ∧ name ≠ ".") = destination here names := by
  induction names generalizing here with
  | nil => rfl
  | cons name rest ih =>
    rw [destination]
    by_cases skipped : name = "" ∨ name = "."
    · rw [List.filter_cons_of_neg (by simpa [← not_or] using skipped), if_pos skipped, ih]
    · rw [List.filter_cons_of_pos (by simpa [not_or] using skipped), destination, if_neg skipped, if_neg skipped, ih, ih]

def placeOf (path : String) : Location :=
  destination (if (Path.ofString path).root = "" then home else []) (Path.ofString path).names

theorem beginning_eq (path : String) :
    (if (Path.ofString path).root = "" then home else []) = if path.toList.head? = some '/' then [] else home := by
  have relative : (Path.ofString path).root = "" ↔ path.toList.head? ≠ some '/' := Path.rootOf_eq_empty_iff _
  by_cases slash : path.toList.head? = some '/' <;> simp [relative, slash]

theorem names_eq (path : String) :
    (Path.ofString path).names =
      ((path.toList.splitOn '/').map String.ofList).filter fun name => name ≠ "" ∧ name ≠ "." := by
  rw [Path.ofString, Path.namesOf, List.filter_map]
  refine congrArg _ (List.filter_congr fun piece _ => decide_eq_decide.mpr ?_)
  have same : ∀ name : String, String.ofList piece = name ↔ piece = name.toList := fun name =>
    ⟨fun h => by rw [← h, String.toList_ofList], fun h => by rw [h, String.ofList_toList]⟩
  simp only [ne_eq, same]
  rfl

theorem placeOf_eq_destination (path : String) :
    placeOf path = destination (if path.toList.head? = some '/' then [] else home)
      ((path.toList.splitOn '/').map String.ofList) := by
  rw [placeOf, names_eq, beginning_eq, destination_filter]

theorem locate_eq_ok_iff {t : FileTree} {path : String} {place : Location} :
    t.locate path = .ok place ↔
      Char.ofNat 0 ∉ path.toList ∧ path ≠ "" ∧ path.utf8ByteSize ≤ maxPathLength ∧
      t.walk (if path.toList.head? = some '/' then [] else home) ((path.toList.splitOn '/').map String.ofList) =
        .ok place := by
  rw [locate]
  simp only [List.contains_iff_mem]
  split
  · rename_i null
    simp [null]
  rename_i whole
  split
  · rename_i empty
    simp [String.isEmpty_iff.mp empty]
  rename_i filled
  split
  · rename_i long
    simp [Nat.not_le.mpr long]
  rename_i short
  simp only [whole, not_false_eq_true, true_and, ne_eq, String.isEmpty_iff.not.mp filled, Nat.not_lt.mp short]

theorem locate_eq_ok {t : FileTree} {path : String} {place : Location} (h : t.locate path = .ok place) :
    place = placeOf path := by
  rw [placeOf_eq_destination]
  obtain ⟨-, -, -, walked⟩ := locate_eq_ok_iff.mp h
  exact walk_eq_ok walked

theorem placeOf_normal (path : String) : placeOf (Path.normal path) = placeOf path := by
  rw [placeOf, placeOf, Path.ofString_normal]

def places (t : FileTree) : List Location := t.nodes.map Prod.fst

theorem node?_eq_none_iff (t : FileTree) (place : Location) : t.node? place = none ↔ place ∉ t.places := by
  rw [node?, ← Option.not_isSome_iff_eq_none, List.lookup_isSome_iff, places, List.mem_map]
  simp only [beq_iff_eq, eq_comm (a := place)]

theorem has_iff (t : FileTree) (place : Location) : t.has place = true ↔ place ∈ t.places := by
  rw [has, Option.isSome_iff_ne_none, ne_eq, node?_eq_none_iff, not_not]

theorem places_put (t : FileTree) (place : Location) (n : FileNode) :
    (t.put place n).places = if t.has place then t.places else t.places ++ [place] := by
  unfold put
  split
  · rw [places, places, List.map_map]
    refine List.map_congr_left fun entry _ => ?_
    rw [Function.comp_apply]
    split
    · rename_i same
      exact same.symm
    · rfl
  · simp [places]

theorem places_setTime (t : FileTree) (place : Location) (time : Int) : (t.setTime place time).places = t.places := by
  unfold setTime
  split
  · rename_i n found
    rw [places_put, if_pos (by rw [has, found]; rfl)]
  · rfl

theorem places_removeAt (t : FileTree) (now : Int) (place : Location) :
    (t.removeAt now place).places = t.places.filter fun q => !isWithin place q || isWithin q home := by
  rw [removeAt, places_setTime, places, places, List.filter_map]
  rfl

theorem isWithin_self (place : Location) : isWithin place place = true :=
  List.isSuffixOf_iff_suffix.mpr (List.suffix_refl place)

/-- Wherever paths begin, or lead through from there, something is. -/
def IsRooted (t : FileTree) : Prop := ∀ place, isWithin place home = true → place ∈ t.places

theorem isRooted_empty (now : Int) : (empty now).IsRooted := by
  intro place within
  have suffix : place <:+ home := List.isSuffixOf_iff_suffix.mp within
  simp only [home, List.suffix_cons_iff, List.suffix_nil] at suffix
  rcases suffix with rfl | rfl | rfl <;> simp [empty, places, home]

theorem IsRooted.removeAt {t : FileTree} (h : t.IsRooted) (now : Int) (place : Location) :
    (t.removeAt now place).IsRooted := by
  intro q within
  rw [places_removeAt, List.mem_filter]
  exact ⟨h q within, by simp [within]⟩

theorem IsRooted.of_subset {t u : FileTree} (h : t.IsRooted) (kept : t.places ⊆ u.places) : u.IsRooted :=
  fun q within => kept (h q within)

theorem makeDirectory_eq_ok_iff {t u : FileTree} {now : Int} {path : String} {place : Location} :
    t.makeDirectory now path = .ok (place, u) ↔
      t.locate path = .ok place ∧ place ∉ t.places ∧ u = (t.put place ⟨none, now⟩).setTime place.tail now := by
  unfold makeDirectory
  cases led : t.locate path with
  | error fault => simp [Except.bind]
  | ok q =>
    simp only [Except.bind, has_iff]
    split
    · rename_i there
      simp only [reduceCtorEq, Except.ok.injEq, false_iff, not_and]
      rintro rfl free
      exact absurd there free
    · rename_i free
      simp only [Except.ok.injEq, Prod.mk.injEq]
      constructor
      · rintro ⟨rfl, rfl⟩
        exact ⟨rfl, free, rfl⟩
      · rintro ⟨rfl, -, rfl⟩
        exact ⟨rfl, rfl⟩

theorem makeDirectory_eq_ok {t u : FileTree} {now : Int} {path : String} {place : Location}
    (h : t.makeDirectory now path = .ok (place, u)) :
    place = placeOf path ∧ place ∉ t.places ∧ u.places = t.places ++ [place] := by
  obtain ⟨led, free, rfl⟩ := makeDirectory_eq_ok_iff.mp h
  rw [← has_iff] at free
  exact ⟨locate_eq_ok led, (has_iff t place).not.mp free, by rw [places_setTime, places_put, if_neg free]⟩

theorem places_subset_ensureDirectory {t u : FileTree} {now : Int} {path : String}
    (h : t.ensureDirectory now path = .ok u) : t.places ⊆ u.places := by
  unfold ensureDirectory at h
  split at h
  · rename_i made
    obtain rfl := Except.ok.inj h
    obtain ⟨-, -, places⟩ := makeDirectory_eq_ok made
    rw [places]
    exact List.subset_append_left ..
  · split at h
    · obtain rfl := Except.ok.inj h
      exact List.Subset.refl _
    · cases h

theorem places_subset_ensureFrom {now : Int} {root : String} {names : List String} {t u : FileTree}
    (h : ensureFrom now root names t = .ok u) : t.places ⊆ u.places := by
  induction names generalizing u with
  | nil =>
    obtain rfl := Except.ok.inj h
    exact List.Subset.refl _
  | cons name outer ih =>
    unfold ensureFrom at h
    simp only at h
    split at h
    · cases around : ensureFrom now root outer t with
      | error e =>
        rw [around] at h
        cases h
      | ok v =>
        rw [around] at h
        exact List.Subset.trans (ih around) (places_subset_ensureDirectory h)
    · exact places_subset_ensureDirectory h

theorem mem_places_ensureDirectory {t u : FileTree} {now : Int} {path : String}
    (h : t.ensureDirectory now path = .ok u) {q : Location} (there : q ∈ u.places) :
    q ∈ t.places ∨ q = placeOf path := by
  unfold ensureDirectory at h
  split at h
  · rename_i made
    obtain rfl := Except.ok.inj h
    obtain ⟨rfl, -, places⟩ := makeDirectory_eq_ok made
    rw [places, List.mem_append, List.mem_singleton] at there
    exact there
  · split at h
    · obtain rfl := Except.ok.inj h
      exact .inl there
    · cases h

theorem mem_places_ensureFrom {now : Int} {root : String} {names : List String} {t u : FileTree}
    (h : ensureFrom now root names t = .ok u) {q : Location} (there : q ∈ u.places) :
    q ∈ t.places ∨ ∃ outer, outer <:+ names ∧ q = placeOf (Path.text ⟨root, outer.reverse⟩) := by
  induction names generalizing u with
  | nil =>
    obtain rfl := Except.ok.inj h
    exact .inl there
  | cons name outer ih =>
    have itself : outer <:+ name :: outer := List.suffix_cons ..
    unfold ensureFrom at h
    simp only at h
    split at h
    · cases around : ensureFrom now root outer t with
      | error e =>
        rw [around] at h
        cases h
      | ok v =>
        rw [around] at h
        rcases mem_places_ensureDirectory h there with there | rfl
        · rcases ih around there with there | ⟨further, suffix, rfl⟩
          · exact .inl there
          · exact .inr ⟨further, suffix.trans itself, rfl⟩
        · exact .inr ⟨_, List.suffix_refl _, rfl⟩
    · rcases mem_places_ensureDirectory h there with there | rfl
      · exact .inl there
      · exact .inr ⟨_, List.suffix_refl _, rfl⟩

theorem existing_eq_ok {t : FileTree} {path : String} {place : Location} {n : FileNode}
    (h : t.existing path = .ok (place, n)) : place = placeOf path ∧ t.node? place = some n := by
  unfold existing at h
  cases led : t.locate path with
  | error fault =>
    rw [led] at h
    cases h
  | ok q =>
    rw [led] at h
    simp only [Except.bind] at h
    split at h
    · rename_i found
      obtain ⟨rfl, rfl⟩ := Prod.mk.inj (Except.ok.inj h)
      exact ⟨locate_eq_ok led, found⟩
    · cases h

theorem isDirectoryAt_of_not_mem {t : FileTree} {path : String} (h : placeOf path ∉ t.places) :
    t.isDirectoryAt path = false := by
  unfold isDirectoryAt existing
  cases led : t.locate path with
  | error fault => rfl
  | ok place =>
    obtain rfl := locate_eq_ok led
    simp only [Except.bind, (node?_eq_none_iff t _).mpr h]

/-- A directory that is removed is gone, unless it is one that paths begin at or one around it. What the path leads
to at that time does not matter. -/
theorem isDirectoryAt_remove {t : FileTree} (now : Int) {path : String}
    (outside : isWithin (placeOf path) home = false) : (t.remove now path).isDirectoryAt path = false := by
  unfold remove
  cases found : t.existing path with
  | error fault => simp only [isDirectoryAt, found]
  | ok there =>
    obtain ⟨place, n⟩ := there
    simp only
    split
    · obtain rfl := (existing_eq_ok found).1
      refine isDirectoryAt_of_not_mem fun kept => ?_
      rw [places_removeAt, List.mem_filter, outside, isWithin_self] at kept
      exact Bool.false_ne_true kept.2
    · rename_i file
      simp only [isDirectoryAt, found]
      exact (Bool.not_eq_true _).mp file

end AsmScope.FileTree
