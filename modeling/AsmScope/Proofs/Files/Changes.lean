import AsmScope.Proofs.Files.Tree

/-! What a change to the tree does to one place. Most changes spare it: it is a directory afterwards if it was one, and
its time does not go back beyond that of the change. A place is lost only if a directory around it is removed, and found
only where something new is made. -/

namespace AsmScope.FileTree

theorem lookup_cons_eq_if {β : Type} (q place : Location) (b : β) (entries : List (Location × β)) :
    ((place, b) :: entries).lookup q = if q = place then some b else entries.lookup q := by
  rw [List.lookup_cons]
  by_cases same : q = place
  · simp [same]
  · rw [if_neg same, beq_eq_false_iff_ne.mpr same]

theorem lookup_map_replace (nodes : List (Location × FileNode)) (place q : Location) (n : FileNode) :
    (nodes.map fun entry => if entry.1 = place then (place, n) else entry).lookup q =
      if q = place then (nodes.lookup q).map fun _ => n else nodes.lookup q := by
  induction nodes with
  | nil => simp
  | cons entry nodes ih =>
    obtain ⟨key, value⟩ := entry
    rw [List.map_cons, lookup_cons_eq_if]
    by_cases replaced : key = place
    · rw [if_pos replaced, lookup_cons_eq_if, ih, replaced]
      by_cases same : q = place <;> simp [same]
    · rw [if_neg replaced, lookup_cons_eq_if, ih]
      by_cases same : q = key
      · simp [same, replaced]
      · rw [if_neg same, if_neg same]

theorem lookup_filter_key {p : Location → Bool} (nodes : List (Location × FileNode)) (q : Location) :
    (nodes.filter fun entry => p entry.1).lookup q = if p q then nodes.lookup q else none := by
  induction nodes with
  | nil => simp
  | cons entry nodes ih =>
    obtain ⟨key, value⟩ := entry
    rw [List.filter_cons, lookup_cons_eq_if]
    by_cases same : q = key
    · subst same
      cases kept : p q with
      | true => simp
      | false => simp [ih, kept]
    · rw [if_neg same, ← ih]
      split
      · rw [lookup_cons_eq_if, if_neg same]
      · rfl

theorem node?_put (t : FileTree) (place q : Location) (n : FileNode) :
    (t.put place n).node? q = if q = place then some n else t.node? q := by
  unfold put
  split
  · rename_i there
    rw [node?, lookup_map_replace]
    split
    · rename_i same
      obtain ⟨old, found⟩ := Option.isSome_iff_exists.mp there
      rw [same, show t.nodes.lookup place = some old from found]
      rfl
    · rfl
  · rename_i absent
    rw [node?, List.lookup_append, lookup_cons_eq_if]
    split
    · rename_i same
      rw [same, show t.nodes.lookup place = none from Option.not_isSome_iff_eq_none.mp absent]
      rfl
    · exact Option.or_none

theorem node?_setTime (t : FileTree) (place q : Location) (time : Int) :
    (t.setTime place time).node? q =
      if q = place then (t.node? q).map fun n => { n with modified := time } else t.node? q := by
  unfold setTime
  split
  · rename_i n found
    rw [node?_put]
    split
    · rename_i same
      rw [same, found]
      rfl
    · rfl
  · rename_i none
    split
    · rename_i same
      rw [same, none]
      rfl
    · rfl

/-- Removing takes away what is within, but for what paths begin at, and marks the directory around it. -/
theorem node?_removeAt (t : FileTree) (now : Int) (place q : Location) :
    (t.removeAt now place).node? q =
      if isWithin place q && !isWithin q home then none
      else if q = place.tail then (t.node? q).map fun n => { n with modified := now } else t.node? q := by
  have kept : (⟨t.nodes.filter fun entry => !isWithin place entry.1 || isWithin entry.1 home⟩ : FileTree).node? q =
      if isWithin place q && !isWithin q home then none else t.node? q := by
    rw [node?, lookup_filter_key (p := fun q => !isWithin place q || isWithin q home)]
    cases isWithin place q <;> cases isWithin q home <;> rfl
  rw [removeAt, node?_setTime, kept]
  split
  · split <;> rfl
  · rfl

theorem node?_of_makeDirectory {t u : FileTree} {now : Int} {path : String} {place : Location}
    (h : t.makeDirectory now path = .ok (place, u)) : u.node? place = some ⟨none, now⟩ := by
  obtain ⟨-, -, rfl⟩ := makeDirectory_eq_ok_iff.mp h
  rw [node?_setTime, node?_put, if_pos rfl]
  split <;> rfl

theorem eq_of_write {t u : FileTree} {now : Int} {path : String} {data : Text.Octets}
    (h : t.write now path data = .ok u) :
    ∃ place, t.isDirectory place = false ∧
      (u = t.put place ⟨some data, now⟩ ∨ u = (t.put place ⟨some data, now⟩).setTime place.tail now) := by
  unfold write at h
  cases led : t.locate path with
  | error fault =>
    rw [led] at h
    cases h
  | ok place =>
    rw [led] at h
    simp only [Except.bind] at h
    refine ⟨place, ?_⟩
    rw [isDirectory]
    cases found : t.node? place with
    | none =>
      rw [found] at h
      exact ⟨rfl, .inr (Except.ok.inj h).symm⟩
    | some n =>
      rw [found] at h
      simp only at h
      split at h
      · cases h
      · rename_i file
        exact ⟨by rw [Option.any_some, Bool.eq_false_iff]; exact file, .inl (Except.ok.inj h).symm⟩

theorem isDirectory_removeAt_of_not {t : FileTree} {q : Location} (h : t.isDirectory q = false) (now : Int)
    (place : Location) : (t.removeAt now place).isDirectory q = false := by
  rw [isDirectory] at h ⊢
  rw [node?_removeAt]
  split
  · rfl
  · split
    · rw [Option.any_map]
      exact h
    · exact h

theorem since_removeAt {t : FileTree} {q : Location} {now time : Int} (past : time ≤ now)
    (since : ∀ n ∈ t.node? q, time ≤ n.modified) (place : Location) :
    ∀ n ∈ (t.removeAt now place).node? q, time ≤ n.modified := by
  intro n there
  rw [node?_removeAt] at there
  split at there
  · cases there
  · split at there
    · obtain ⟨-, -, rfl⟩ := Option.map_eq_some_iff.mp there
      exact past
    · exact since n there

theorem places_subset_put (t : FileTree) (place : Location) (n : FileNode) : t.places ⊆ (t.put place n).places := by
  rw [places_put]
  split
  · exact List.Subset.refl _
  · exact List.subset_append_left ..

theorem IsRooted.remove {t : FileTree} (h : t.IsRooted) (now : Int) (path : String) :
    (t.remove now path).IsRooted := by
  unfold FileTree.remove
  split
  · split
    · exact h.removeAt now _
    · exact h
  · exact h

theorem IsRooted.write {t u : FileTree} (h : t.IsRooted) {now : Int} {path : String} {data : Text.Octets}
    (written : t.write now path data = .ok u) : u.IsRooted := by
  obtain ⟨place, -, made⟩ := eq_of_write written
  refine h.of_subset ?_
  rcases made with rfl | rfl
  · exact places_subset_put ..
  · rw [places_setTime]
    exact places_subset_put ..

/-- The place is a directory after a change that is made now just if it was one before, and it has not become older. -/
structure Spares (now : Int) (place : Location) (t u : FileTree) : Prop where
  directory : u.isDirectory place = t.isDirectory place
  since : ∀ time ≤ now, (∀ n ∈ t.node? place, time ≤ n.modified) → ∀ n ∈ u.node? place, time ≤ n.modified

namespace Spares
variable {now : Int} {place : Location} {t u v : FileTree}

theorem refl (now : Int) (place : Location) (t : FileTree) : Spares now place t t := ⟨rfl, fun _ _ h => h⟩

theorem trans (h : Spares now place t u) (h' : Spares now place u v) : Spares now place t v :=
  ⟨h'.directory.trans h.directory, fun time past young => h'.since time past (h.since time past young)⟩

theorem of_node? (same : u.node? place = t.node? place) : Spares now place t u := by
  refine ⟨by rw [isDirectory, isDirectory, same], fun time past young => ?_⟩
  rwa [same]

theorem setTime (now : Int) (place q : Location) (t : FileTree) : Spares now place t (t.setTime q now) := by
  by_cases same : place = q
  · have marked : (t.setTime q now).node? place = (t.node? place).map fun n => { n with modified := now } := by
      rw [node?_setTime, if_pos same]
    refine ⟨?_, fun time past young n there => ?_⟩
    · rw [isDirectory, isDirectory, marked, Option.any_map]
    · rw [marked] at there
      obtain ⟨old, -, rfl⟩ := Option.map_eq_some_iff.mp there
      exact past
  · refine of_node? ?_
    rw [node?_setTime, if_neg same]

theorem put {q : Location} (other : place ≠ q) (t : FileTree) (n : FileNode) : Spares now place t (t.put q n) :=
  of_node? (by rw [node?_put, if_neg other])

theorem removeAt {q : Location} (outside : isWithin q place = false) (t : FileTree) :
    Spares now place t (t.removeAt now q) := by
  have same : (t.removeAt now q).node? place = (t.setTime q.tail now).node? place := by
    rw [node?_removeAt, outside, node?_setTime]
    rfl
  exact (setTime now place q.tail t).trans (of_node? same)

theorem remove {path : String} (outside : isWithin (placeOf path) place = false) (t : FileTree) :
    Spares now place t (t.remove now path) := by
  unfold FileTree.remove
  split
  · rename_i found
    split
    · obtain rfl := (existing_eq_ok found).1
      exact removeAt outside t
    · exact refl ..
  · exact refl ..

theorem makeDirectory {path : String} {q : Location} (made : t.makeDirectory now path = .ok (q, u))
    (other : place ≠ q) : Spares now place t u := by
  obtain ⟨-, -, rfl⟩ := makeDirectory_eq_ok_iff.mp made
  exact (put other t _).trans (setTime ..)

theorem write {path : String} {data : Text.Octets} (written : t.write now path data = .ok u) (place : Location) :
    Spares now place t u := by
  obtain ⟨q, free, made⟩ := eq_of_write written
  have here : Spares now place t (t.put q ⟨some data, now⟩) := by
    by_cases same : place = q
    · have file : (t.put q ⟨some data, now⟩).node? place = some ⟨some data, now⟩ := by
        rw [node?_put, if_pos same]
      refine ⟨?_, fun time past young n there => ?_⟩
      · rw [isDirectory, file, same, free]
        rfl
      · obtain rfl := Option.some.inj (file.symm.trans there)
        exact past
    · exact put same t _
  rcases made with rfl | rfl
  · exact here
  · exact here.trans (setTime ..)

theorem ensureDirectory {path : String} (made : t.ensureDirectory now path = .ok u) (other : place ≠ placeOf path) :
    Spares now place t u := by
  unfold FileTree.ensureDirectory at made
  split at made
  · rename_i new
    obtain rfl := Except.ok.inj made
    exact makeDirectory new ((makeDirectory_eq_ok new).1 ▸ other)
  · split at made
    · obtain rfl := Except.ok.inj made
      exact refl ..
    · cases made

theorem ensureFrom {root : String} {names : List String} (made : ensureFrom now root names t = .ok u)
    (other : ∀ outer, outer <:+ names → place ≠ placeOf (Path.text ⟨root, outer.reverse⟩)) : Spares now place t u := by
  induction names generalizing u with
  | nil =>
    obtain rfl := Except.ok.inj made
    exact refl ..
  | cons name outer ih =>
    have itself := other _ (List.suffix_refl _)
    unfold FileTree.ensureFrom at made
    simp only at made
    split at made
    · cases around : FileTree.ensureFrom now root outer t with
      | error e =>
        rw [around] at made
        cases made
      | ok v =>
        rw [around] at made
        exact (ih around fun further suffix => other further (suffix.trans (List.suffix_cons ..))).trans
          (ensureDirectory made itself)
    · exact ensureDirectory made itself

end Spares

section Around
variable {t u : FileTree} {now : Int}

theorem has_of_walk {here place : Location} {before after : List String} {name : String}
    (h : t.walk here (before ++ name :: after) = .ok place) : t.has (destination here before) = true := by
  induction before generalizing here with
  | nil => exact has_of_isDirectory (walk_cons_eq_ok_iff.mp h).1
  | cons first before ih =>
    obtain ⟨-, -, onwards⟩ := walk_cons_eq_ok_iff.mp h
    rw [destination_cons]
    exact ih onwards

theorem mem_places_of_locate {path : String} {place : Location} (led : t.locate path = .ok place)
    {before after : List String} {name : String} (parts : (Path.ofString path).names = before ++ name :: after) :
    placeOf (Path.text ⟨(Path.ofString path).root, before⟩) ∈ t.places := by
  have proper : Path.IsProper ⟨(Path.ofString path).root, before⟩ := by
    obtain ⟨root, names⟩ := Path.isProper_ofString path
    exact ⟨root, fun name there => names name (parts ▸ List.mem_append_left _ there)⟩
  rw [names_eq, List.filter_eq_append_iff] at parts
  obtain ⟨lead, rest, whole, rfl, tail⟩ := parts
  obtain ⟨skipped, rest, rfl, silent, -, -⟩ := List.filter_eq_cons_iff.mp tail
  -- Names without a meaning may stand between the ones before and the next one.
  have here (place : Location) : destination place (lead ++ skipped) =
      destination place (lead.filter fun name => name ≠ "" ∧ name ≠ ".") := by
    rw [← destination_filter, List.filter_append, List.filter_eq_nil_iff.mpr silent, List.append_nil]
  obtain ⟨-, -, -, walked⟩ := locate_eq_ok_iff.mp led
  rw [whole, ← List.append_assoc] at walked
  rw [placeOf, Path.ofString_text proper, beginning_eq, ← here, ← has_iff]
  exact has_of_walk walked

theorem mem_places_of_ensureDirectory {path : String} (made : t.ensureDirectory now path = .ok u) {outer : List String}
    (around : outer <+: (Path.ofString path).names) :
    placeOf (Path.text ⟨(Path.ofString path).root, outer⟩) ∈ u.places := by
  have kept := places_subset_ensureDirectory made
  obtain ⟨place, led, here⟩ : ∃ place, t.locate path = .ok place ∧ place ∈ u.places := by
    cases led : t.locate path with
    | error fault => simp [ensureDirectory, makeDirectory, isDirectoryAt, existing, led, Except.bind] at made
    | ok place =>
      obtain rfl := locate_eq_ok led
      refine ⟨_, rfl, ?_⟩
      unfold ensureDirectory at made
      split at made
      · rename_i new
        obtain rfl := Except.ok.inj made
        obtain ⟨rfl, -, places⟩ := makeDirectory_eq_ok new
        rw [places]
        exact List.mem_append_right _ (List.mem_singleton_self _)
      · split at made
        · rename_i found
          by_contra absent
          rw [isDirectoryAt_of_not_mem fun there => absent (kept there)] at found
          cases found
        · cases made
  obtain ⟨rest, parts⟩ := around
  cases rest with
  | nil =>
    rw [List.append_nil] at parts
    rw [parts]
    have same : placeOf (Path.normal path) = placeOf path := placeOf_normal path
    rw [show Path.text ⟨(Path.ofString path).root, (Path.ofString path).names⟩ = Path.normal path from rfl, same,
      ← locate_eq_ok led]
    exact here
  | cons name rest => exact kept (mem_places_of_locate led parts.symm)

theorem mem_places_of_ensureAll (rooted : t.IsRooted) {path : String} (made : t.ensureAll now path = .ok u)
    {outer : List String} (around : outer <+: (Path.ofString path).names) :
    placeOf (Path.text ⟨(Path.ofString path).root, outer⟩) ∈ u.places := by
  unfold ensureAll at made
  rcases List.eq_nil_or_concat (Path.ofString path).names with none | ⟨lead, last, parts⟩
  · rw [none, List.prefix_nil] at around
    rw [none] at made
    obtain rfl := Except.ok.inj made
    have proper : Path.IsProper ⟨(Path.ofString path).root, []⟩ := ⟨(Path.isProper_ofString path).root, by simp⟩
    rw [around, placeOf, Path.ofString_text proper, destination]
    split
    · exact rooted _ (isWithin_self home)
    · exact rooted _ (by decide)
  · have normal : Path.text ⟨(Path.ofString path).root, (last :: lead.reverse).reverse⟩ = Path.normal path := by
      have whole : (last :: lead.reverse).reverse = (Path.ofString path).names := by simp [parts]
      rw [whole, Path.normal]
    rw [parts, List.concat_eq_append, List.reverse_append, List.reverse_singleton, List.singleton_append,
      ensureFrom] at made
    simp only [normal] at made
    have found {v : FileTree} (made : v.ensureDirectory now (Path.normal path) = .ok u) :
        placeOf (Path.text ⟨(Path.ofString path).root, outer⟩) ∈ u.places := by
      have same := Path.ofString_normal path
      have there := mem_places_of_ensureDirectory made (same.symm ▸ around)
      rwa [same] at there
    split at made
    · cases before : ensureFrom now (Path.ofString path).root lead.reverse t with
      | error e =>
        rw [before] at made
        cases made
      | ok v =>
        rw [before] at made
        exact found made
    · exact found made

end Around

section Reach
variable {t u : FileTree}

theorem walk_filter {here place : Location} {names : List String} (h : t.walk here names = .ok place) :
    t.walk here (names.filter fun name => name ≠ "" ∧ name ≠ ".") = .ok place := by
  induction names generalizing here with
  | nil => exact h
  | cons name rest ih =>
    obtain ⟨directory, short, onwards⟩ := walk_cons_eq_ok_iff.mp h
    by_cases skipped : name = "" ∨ name = "."
    · rw [List.filter_cons_of_neg (by simpa [← not_or] using skipped)]
      rw [following, if_pos skipped] at onwards
      exact ih onwards
    · rw [List.filter_cons_of_pos (by simpa [not_or] using skipped)]
      exact walk_cons_eq_ok_iff.mpr ⟨directory, short, ih onwards⟩

/-- A walk goes the same way where all directories are still there. -/
theorem walk_of_isDirectory (kept : ∀ q, t.isDirectory q = true → u.isDirectory q = true)
    {here place : Location} {names : List String} (h : t.walk here names = .ok place) : u.walk here names = .ok place := by
  induction names generalizing here with
  | nil => exact h
  | cons name rest ih =>
    obtain ⟨directory, short, onwards⟩ := walk_cons_eq_ok_iff.mp h
    exact walk_cons_eq_ok_iff.mpr ⟨kept here directory, short, ih onwards⟩

theorem walk_append_of_forall {here : Location} {lead names : List String}
    (directory : t.isDirectory here = true) (skipped : ∀ name ∈ lead, name = "" ∨ name = ".") :
    t.walk here (lead ++ names) = t.walk here names := by
  induction lead with
  | nil => rfl
  | cons name lead ih =>
    rw [List.forall_mem_cons] at skipped
    rw [List.cons_append, walk, if_neg (by simp [has_of_isDirectory directory]), if_neg (by simp [directory]),
      if_pos skipped.1, ih skipped.2]

theorem locate_normal {path : String} {place : Location} (h : t.locate path = .ok place) :
    t.locate (Path.normal path) = .ok place := by
  obtain ⟨whole, filled, short, walked⟩ := locate_eq_ok_iff.mp h
  have fewer := Path.toList_normal_sublist filled
  have smaller := String.utf8Len_le_of_sublist fewer
  rw [← String.utf8ByteSize_ofList, ← String.utf8ByteSize_ofList, String.ofList_toList, String.ofList_toList] at smaller
  refine locate_eq_ok_iff.mpr
    ⟨fun null => whole (fewer.subset null), Path.normal_ne_empty path, Nat.le_trans smaller short, ?_⟩
  obtain ⟨lead, skipped, pieces⟩ := Path.pieces_text (Path.isProper_ofString path)
  have directory : t.isDirectory (if path.toList.head? = some '/' then [] else home) = true := by
    obtain ⟨first, rest, split⟩ := List.exists_cons_of_ne_nil (List.splitOn_ne_nil '/' path.toList)
    rw [split] at walked
    exact (walk_cons_eq_ok_iff.mp walked).1
  rw [← beginning_eq, Path.ofString_normal, beginning_eq, Path.normal, pieces,
    walk_append_of_forall directory skipped, names_eq]
  exact walk_filter walked

theorem isDirectoryAt_of_locate {path : String} {place : Location} (led : t.locate path = .ok place) :
    t.isDirectoryAt path = t.isDirectory place := by
  unfold isDirectoryAt existing isDirectory
  rw [led, Except.bind]
  cases t.node? place <;> rfl

theorem isDirectoryAt_of_makeDirectory {now : Int} {path : String} {place : Location}
    (h : t.makeDirectory now path = .ok (place, u)) : u.isDirectoryAt (Path.normal path) = true := by
  obtain ⟨led, free, -⟩ := makeDirectory_eq_ok_iff.mp h
  have kept (q : Location) (directory : t.isDirectory q = true) : u.isDirectory q = true := by
    have other : q ≠ place := fun same => free ((has_iff t place).mp (has_of_isDirectory (same ▸ directory)))
    rw [(Spares.makeDirectory h other).directory, directory]
  obtain ⟨whole, filled, short, walked⟩ := locate_eq_ok_iff.mp led
  have led' : u.locate path = .ok place :=
    locate_eq_ok_iff.mpr ⟨whole, filled, short, walk_of_isDirectory kept walked⟩
  rw [isDirectoryAt_of_locate (locate_normal led'), isDirectory, node?_of_makeDirectory h]
  rfl

end Reach
end AsmScope.FileTree
