import AsmScope.Config.Load
import AsmScope.Proofs.Document.Table

/-! Laying one configuration over another, told by paths of keys. What the upper one says at a path holds there; where
it says nothing the lower one is left as it is, unless the upper one ends further out in something that is no table. -/

namespace AsmScope

namespace Fields

/-- Further out on the path stands something that is no table. -/
def CutsOff (fields : Fields) (path : List String) : Prop :=
  ∃ outer v, outer <+: path ∧ outer ≠ path ∧ at? fields outer = some v ∧ v.isTable = false

/-- At no path does one have a table and the other something else. -/
def Agrees (left right : Fields) : Prop :=
  ∀ path v w, at? left path = some v → at? right path = some w → v.isTable = w.isTable

theorem not_cutsOff_nil (fields : Fields) : ¬ CutsOff fields [] := by
  rintro ⟨outer, v, initial, proper, -⟩
  exact proper (List.prefix_nil.mp initial)

theorem cutsOff_cons_iff {fields : Fields} {key : String} {path : List String} :
    CutsOff fields (key :: path) ↔ ∃ v, get? fields key = some v ∧
      (v.isTable = false ∧ path ≠ [] ∨ ∃ above, v = .table above ∧ CutsOff above path) := by
  constructor
  · rintro ⟨outer, w, initial, proper, found, plain⟩
    cases outer with
    | nil =>
      obtain rfl := Option.some.inj found
      cases plain
    | cons key' outer =>
      obtain ⟨rfl, shorter⟩ := List.cons_prefix_cons.mp initial
      rw [at?_cons] at found
      obtain ⟨v, there, found⟩ := Option.bind_eq_some_iff.mp found
      refine ⟨v, there, ?_⟩
      have other : outer ≠ path := fun same => proper (same ▸ rfl)
      cases kind : v.isTable with
      | false =>
        refine .inl ⟨rfl, ?_⟩
        rintro rfl
        exact other (List.prefix_nil.mp shorter)
      | true =>
        obtain ⟨above, rfl⟩ := Value.isTable_iff.mp kind
        exact .inr ⟨above, rfl, outer, w, shorter, other, found, plain⟩
  · rintro ⟨v, there, ⟨plain, longer⟩ | ⟨above, rfl, outer, w, initial, proper, found, plain⟩⟩
    · refine ⟨[key], v, ⟨path, rfl⟩, ?_, ?_, plain⟩
      · simpa using longer.symm
      · rw [at?_cons, there]
        rfl
    · refine ⟨key :: outer, w, List.cons_prefix_cons.mpr ⟨rfl, initial⟩, ?_, ?_, plain⟩
      · simpa using proper
      · rw [at?_cons, there]
        exact found

theorem Agrees.of_disjoint {left right : Fields} (apart : ∀ key ∈ keys left, key ∉ keys right) :
    Agrees left right := by
  intro path v w hv hw
  cases path with
  | nil =>
    obtain rfl := Option.some.inj hv
    obtain rfl := Option.some.inj hw
    rfl
  | cons key path =>
    rw [at?_cons] at hv hw
    obtain ⟨_, inLeft, -⟩ := Option.bind_eq_some_iff.mp hv
    obtain ⟨_, inRight, -⟩ := Option.bind_eq_some_iff.mp hw
    exact absurd (mem_keys_of_mem (mem_of_get? inRight)) (apart key (mem_keys_of_mem (mem_of_get? inLeft)))

theorem Agrees.tableAt {left right : Fields} (h : Agrees left right) (key : String) :
    Agrees (tableAt left key) (tableAt right key) := by
  intro path v w hv hw
  cases path with
  | nil =>
    obtain rfl := Option.some.inj hv
    obtain rfl := Option.some.inj hw
    rfl
  | cons next path =>
    rw [at?_tableAt] at hv hw
    exact h _ v w hv hw

end Fields

namespace Config
open Fields

def laidOnto : Option Value → Value → Value
  | some (.table below), .table above => .table (merge below above)
  | _, v => v

theorem merge_nil (lower : Fields) : merge lower [] = lower := by
  rw [merge]

theorem merge_cons (lower : Fields) (key : String) (v : Value) (rest : Fields) :
    merge lower ((key, v) :: rest) = merge (insert lower key (laidOnto (get? lower key) v)) rest := by
  cases v with
  | table above =>
    rw [merge]
    cases get? lower key with
    | none => rfl
    | some w =>
      cases w with
      | table below => rfl
      | _ => rfl
  | _ =>
    rw [merge]
    · rw [laidOnto]
      simp
    · simp

/-- The keys of the lower table come first, then those that only the upper one has. -/
theorem keys_merge {upper : Fields} (unique : (keys upper).Nodup) (lower : Fields) :
    keys (merge lower upper) = keys lower ++ (keys upper).filter fun key => key ∉ keys lower := by
  induction upper generalizing lower with
  | nil => simp [merge_nil, keys]
  | cons pair rest ih =>
    obtain ⟨key, v⟩ := pair
    obtain ⟨absent, unique⟩ := List.nodup_cons.mp unique
    rw [merge_cons, ih unique, keys_insert, keys_cons]
    by_cases known : key ∈ keys lower
    · rw [if_pos known, List.filter_cons_of_neg (by simpa using known)]
    · rw [if_neg known, List.filter_cons_of_pos (by simpa using known), List.append_assoc, List.singleton_append]
      have same : (keys rest).filter (fun k => decide (k ∉ keys lower ++ [key])) =
          (keys rest).filter fun k => decide (k ∉ keys lower) := by
        refine List.filter_congr fun k there => ?_
        have other : k ≠ key := fun eq => absent (eq ▸ there)
        simp [other]
      rw [same]

theorem get?_merge {upper : Fields} (unique : (keys upper).Nodup) (lower : Fields) (key : String) :
    get? (merge lower upper) key = ((get? upper key).map (laidOnto (get? lower key))).or (get? lower key) := by
  induction upper generalizing lower with
  | nil => rw [merge_nil]; rfl
  | cons pair rest ih =>
    obtain ⟨first, v⟩ := pair
    obtain ⟨absent, unique⟩ := List.nodup_cons.mp unique
    rw [merge_cons, ih unique, get?_insert, get?_cons]
    by_cases same : key = first
    · subst same
      simp [get?_eq_none_iff.mpr absent]
    · simp [same]

theorem keys_merge_nodup {lower upper : Fields} (below : (keys lower).Nodup) (above : (keys upper).Nodup) :
    (keys (merge lower upper)).Nodup := by
  rw [keys_merge above]
  refine below.append (above.filter _) fun key there new => ?_
  simp [there] at new

theorem nil_merge {upper : Fields} (unique : (keys upper).Nodup) : merge [] upper = upper := by
  have order : keys (merge [] upper) = keys upper := by
    rw [keys_merge unique]
    simp [keys]
  refine ext_of_keys (order ▸ unique) order fun key => ?_
  rw [get?_merge unique]
  cases get? upper key <;> rfl

section Keys
variable {lower upper : Fields} {key : String} (h : WellKeyed upper)
include h

theorem get?_merge_of_none (absent : get? upper key = none) : get? (merge lower upper) key = get? lower key := by
  rw [get?_merge h.unique, absent]
  rfl

theorem get?_merge_of_plain {v : Value} (found : get? upper key = some v) (plain : v.isTable = false) :
    get? (merge lower upper) key = some v := by
  rw [get?_merge h.unique, found]
  cases v with
  | table above => cases plain
  | _ => simp [laidOnto]

theorem get?_merge_of_table {above : Fields} (found : get? upper key = some (.table above)) :
    get? (merge lower upper) key = some (.table (merge (tableAt lower key) above)) := by
  have alone := nil_merge (h.of_get? found).unique
  rw [get?_merge h.unique, found, tableAt]
  cases get? lower key with
  | none => simp [laidOnto, alone]
  | some w =>
    cases w with
    | table below => rfl
    | _ => simp [laidOnto, alone]

theorem tableAt_merge (free : ∀ v, get? upper key = some v → v.isTable = true) :
    tableAt (merge lower upper) key = merge (tableAt lower key) (tableAt upper key) := by
  cases found : get? upper key with
  | none =>
    have nothing : tableAt upper key = [] := by rw [tableAt, found]
    rw [nothing, merge_nil, tableAt, tableAt, get?_merge_of_none h found]
  | some v =>
    obtain ⟨above, rfl⟩ := Value.isTable_iff.mp (free v found)
    rw [tableAt_of_get? (get?_merge_of_table h found), tableAt_of_get? found]

end Keys

/-- The result is the upper table laid over the lower one. -/
structure LaidOver (lower upper result : Fields) : Prop where
  /-- What is no table stands as it is in the upper one. -/
  plain : ∀ path v, at? upper path = some v → v.isTable = false → at? result path = some v
  /-- Where the upper one has a table there is a table. -/
  table : ∀ path above, at? upper path = some (.table above) → ∃ fields, at? result path = some (.table fields)
  /-- Where the upper one has nothing, and does not end before, there is what the lower one has. -/
  untouched : ∀ path, at? upper path = none → ¬ CutsOff upper path → at? result path = at? lower path
  /-- Below a value of the upper one that is no table there is nothing. -/
  cutOff : ∀ path, CutsOff upper path → at? result path = none

/-- One path is told by its first key; what is below is again a merging of two tables. -/
theorem laidOver_merge {upper : Fields} (h : WellKeyed upper) (lower : Fields) :
    LaidOver lower upper (merge lower upper) := by
  have at_path (path : List String) :
      (∀ v, at? upper path = some v → v.isTable = false → at? (merge lower upper) path = some v) ∧
      (∀ above, at? upper path = some (.table above) → ∃ fields, at? (merge lower upper) path = some (.table fields)) ∧
      (at? upper path = none → ¬ CutsOff upper path → at? (merge lower upper) path = at? lower path) ∧
      (CutsOff upper path → at? (merge lower upper) path = none) := by
    induction path generalizing lower upper with
    | nil =>
      refine ⟨fun v found plain => ?_, fun _ _ => ⟨_, rfl⟩, fun absent _ => ?_, fun cut => ?_⟩
      · obtain rfl := Option.some.inj found
        cases plain
      · cases absent
      · exact absurd cut (not_cutsOff_nil upper)
    | cons key path ih =>
      rw [at?_cons, at?_cons (merge lower upper), cutsOff_cons_iff]
      cases found : get? upper key with
      | none =>
        rw [get?_merge_of_none h found]
        simp [at?_cons]
      | some v =>
        cases kind : v.isTable with
        | false =>
          rw [get?_merge_of_plain h found kind]
          refine ⟨fun w there _ => there, fun above there => ⟨above, there⟩, fun absent free => ?_, ?_⟩
          · have longer : path ≠ [] := by
              rintro rfl
              cases absent
            exact absurd ⟨v, rfl, .inl ⟨kind, longer⟩⟩ free
          · rintro ⟨w, same, ⟨-, longer⟩ | ⟨above, rfl, -⟩⟩
            · obtain ⟨next, path, rfl⟩ := List.exists_cons_of_ne_nil longer
              exact Value.at?_cons_of_not_isTable kind next path
            · obtain rfl := Option.some.inj same
              cases kind
        | true =>
          obtain ⟨above, rfl⟩ := Value.isTable_iff.mp kind
          obtain ⟨plain, table, untouched, cutOff⟩ := ih (h.of_get? found) (tableAt lower key)
          rw [get?_merge_of_table h found]
          refine ⟨plain, table, fun absent free => ?_, ?_⟩
          · have free' : ¬ CutsOff above path := fun cut => free ⟨_, rfl, .inr ⟨above, rfl, cut⟩⟩
            cases path with
            | nil => cases absent
            | cons next path => exact (untouched absent free').trans (at?_tableAt ..)
          · rintro ⟨w, same, ⟨plain', -⟩ | ⟨above', rfl, cut⟩⟩
            · obtain rfl := Option.some.inj same
              cases plain'
            · obtain rfl := Value.table.inj (Option.some.inj same)
              exact cutOff cut
  exact ⟨fun path => (at_path path).1, fun path => (at_path path).2.1, fun path => (at_path path).2.2.1,
    fun path => (at_path path).2.2.2⟩

theorem keys_merge_assoc (a : Fields) {b c : Fields} (hb : (keys b).Nodup) (hc : (keys c).Nodup) :
    keys (merge (merge a b) c) = keys (merge a (merge b c)) := by
  rw [keys_merge hc, keys_merge hb, keys_merge (keys_merge_nodup hb hc), keys_merge hc, List.filter_append,
    List.append_assoc, List.filter_filter]
  congr 2
  refine List.filter_congr fun key _ => ?_
  by_cases inA : key ∈ keys a <;> simp [inA]

theorem merge_merge_self {lower upper : Fields} (below : WellKeyed lower) (h : WellKeyed upper) :
    merge (merge lower upper) upper = merge lower upper := by
  induction h generalizing lower with
  | @intro upper unique tables ih =>
    have h : WellKeyed upper := .intro unique tables
    have order : keys (merge (merge lower upper) upper) = keys (merge lower upper) := by
      rw [keys_merge unique]
      refine List.append_right_eq_self.mpr (List.filter_eq_nil_iff.mpr fun key there => ?_)
      rw [keys_merge unique]
      by_cases known : key ∈ keys lower <;> simp [known, there]
    refine ext_of_keys (order ▸ keys_merge_nodup below.unique unique) order fun key => ?_
    cases found : get? upper key with
    | none => exact get?_merge_of_none h found
    | some v =>
      cases kind : v.isTable with
      | false => rw [get?_merge_of_plain h found kind, get?_merge_of_plain h found kind]
      | true =>
        obtain ⟨above, rfl⟩ := Value.isTable_iff.mp kind
        rw [get?_merge_of_table h found, tableAt_of_get? (get?_merge_of_table h found), get?_merge_of_table h found,
          ih key above (mem_of_get? found) (below.tableAt key)]

theorem wellKeyed_merge {lower upper : Fields} (below : WellKeyed lower) (h : WellKeyed upper) :
    WellKeyed (merge lower upper) := by
  induction h generalizing lower with
  | @intro upper unique tables ih =>
    have h : WellKeyed upper := .intro unique tables
    have unique' := keys_merge_nodup below.unique unique
    refine .intro unique' fun key inside there => ?_
    have there := get?_of_mem unique' there
    cases found : get? upper key with
    | none =>
      rw [get?_merge_of_none h found] at there
      exact below.of_get? there
    | some v =>
      cases kind : v.isTable with
      | false =>
        rw [get?_merge_of_plain h found kind] at there
        obtain rfl := Option.some.inj there
        cases kind
      | true =>
        obtain ⟨above, rfl⟩ := Value.isTable_iff.mp kind
        rw [get?_merge_of_table h found] at there
        obtain rfl := Value.table.inj (Option.some.inj there)
        exact ih key above (mem_of_get? found) (below.tableAt key)

theorem merge_assoc {a b c : Fields} (ha : WellKeyed a) (hb : WellKeyed b) (hc : WellKeyed c) (agree : b.Agrees c) :
    merge (merge a b) c = merge a (merge b c) := by
  induction hc generalizing a b with
  | @intro c unique tables ih =>
    have hc : WellKeyed c := .intro unique tables
    have hbc := wellKeyed_merge hb hc
    refine ext_of_keys (keys_merge_nodup (keys_merge_nodup ha.unique hb.unique) unique)
      (keys_merge_assoc a hb.unique unique) fun key => ?_
    cases found : get? c key with
    | none =>
      have same : get? (merge b c) key = get? b key := get?_merge_of_none hc found
      rw [get?_merge_of_none hc found, get?_merge hbc.unique, same, get?_merge hb.unique]
    | some v =>
      cases kind : v.isTable with
      | false =>
        have same : get? (merge b c) key = some v := get?_merge_of_plain hc found kind
        rw [get?_merge_of_plain hc found kind, get?_merge_of_plain hbc same kind]
      | true =>
        obtain ⟨above, rfl⟩ := Value.isTable_iff.mp kind
        have free (w : Value) (there : get? b key = some w) : w.isTable = true :=
          agree [key] w (.table above) (by rw [at?_cons, there]; rfl) (by rw [at?_cons, found]; rfl)
        have both : get? (merge b c) key = some (.table (merge (tableAt b key) above)) := get?_merge_of_table hc found
        have below := ih key above (mem_of_get? found) (ha.tableAt key) (hb.tableAt key)
          (tableAt_of_get? found ▸ agree.tableAt key)
        rw [get?_merge_of_table hc found, get?_merge_of_table hbc both, tableAt_merge hb free, below]

/-- Merging is told by paths: the result is the upper table laid over the lower one, and nothing stands in it twice.
The upper table changes nothing when it is laid over the result again, a table of nothing never does, and a third table
may be laid over the upper one first if the two agree on what is a table. -/
theorem merge_layers {a b : Fields} (ha : WellKeyed a) (hb : WellKeyed b) :
    LaidOver a b (merge a b) ∧ WellKeyed (merge a b) ∧ merge (merge a b) b = merge a b ∧
      merge [] b = b ∧ merge a [] = a ∧
      ∀ c, WellKeyed c → b.Agrees c → merge (merge a b) c = merge a (merge b c) :=
  ⟨laidOver_merge hb a, wellKeyed_merge ha hb, merge_merge_self ha hb, nil_merge hb.unique, merge_nil a,
    fun _ hc agree => merge_assoc ha hb hc agree⟩

def ownDocument : Fields :=
  [("limits", .table [("max_concurrent_jobs", .int 8)]), ("output", .string "plain")]

def projectDocument : Fields := [("workspace", .table [("root", .string "ws")])]

/-- A document of one's own over the shipped one, and a third one over both. -/
theorem merge_layers_shipped :
    WellKeyed shipped ∧ WellKeyed ownDocument ∧ WellKeyed projectDocument ∧ ownDocument.Agrees projectDocument ∧
    at? (merge shipped ownDocument) ["limits", "max_concurrent_jobs"] = some (.int 8) ∧
    at? (merge shipped ownDocument) ["limits", "compile_timeout_ms"] = some (.int 10000) ∧
    at? (merge shipped ownDocument) ["output", "verbosity"] = none ∧
    merge (merge shipped ownDocument) projectDocument = merge shipped (merge ownDocument projectDocument) := by
  have base : WellKeyed shipped := .of_sections (by decide) (by decide)
  have own : WellKeyed ownDocument := .of_sections (by decide) (by decide)
  have project : WellKeyed projectDocument := .of_sections (by decide) (by decide)
  have agree : ownDocument.Agrees projectDocument := .of_disjoint (by decide)
  obtain ⟨laid, -, -, -, -, assoc⟩ := merge_layers base own
  have free : ¬ CutsOff ownDocument ["limits", "compile_timeout_ms"] := by
    simp [cutsOff_cons_iff, ownDocument, get?_cons, not_cutsOff_nil, Value.isTable]
  refine ⟨base, own, project, agree, laid.plain _ _ rfl rfl, laid.untouched _ rfl free, laid.cutOff _ ?_,
    assoc _ project agree⟩
  exact ⟨["output"], .string "plain", by decide, by decide, rfl, rfl⟩

end Config
end AsmScope
