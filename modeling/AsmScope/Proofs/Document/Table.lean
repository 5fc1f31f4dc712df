import AsmScope.Document.Value
import Mathlib.Data.List.Nodup

/-! Tables as they are seen through their keys. A table in which no key stands twice, nor in any table below it, is told
by its keys in their order and by what stands under each of them. -/

namespace AsmScope

def Value.isTable : Value → Bool
  | .table _ => true
  | _ => false

def Value.isSection : Value → Bool
  | .table fields => decide (fields.map Prod.fst).Nodup && fields.all fun field => !field.2.isTable
  | _ => true

/-- What stands at the end of a path of keys; the empty path leads to the value itself. -/
def Value.at? : Value → List String → Option Value
  | v, [] => some v
  | v, key :: path => (v.field? key).bind fun inner => inner.at? path

theorem Value.isTable_iff {v : Value} : v.isTable = true ↔ ∃ fields, v = .table fields := by
  cases v <;> simp [isTable]

theorem Value.at?_cons_of_not_isTable {v : Value} (plain : v.isTable = false) (key : String) (path : List String) :
    v.at? (key :: path) = none := by
  cases v with
  | table fields => cases plain
  | _ => rfl

namespace Fields

def keys (fields : Fields) : List String := fields.map Prod.fst

def at? (fields : Fields) (path : List String) : Option Value := Value.at? (.table fields) path

/-- The table under a key; where there is none, a table of nothing. -/
def tableAt (fields : Fields) (key : String) : Fields :=
  match get? fields key with
  | some (.table below) => below
  | _ => []

/-- No key stands twice, neither here nor in a table below. -/
inductive WellKeyed : Fields → Prop where
  | intro {fields : Fields} (unique : (keys fields).Nodup)
      (below : ∀ key inside, (key, .table inside) ∈ fields → WellKeyed inside) : WellKeyed fields

theorem WellKeyed.unique {fields : Fields} (h : WellKeyed fields) : (keys fields).Nodup := by
  cases h
  assumption

theorem WellKeyed.nil : WellKeyed [] := .intro .nil fun _ _ there => nomatch there

theorem WellKeyed.of_sections {fields : Fields} (unique : (keys fields).Nodup)
    (sections : fields.all (fun field => field.2.isSection) = true) : WellKeyed fields := by
  refine .intro unique fun key inside there => ?_
  have one := List.all_eq_true.mp sections _ there
  simp only [Value.isSection, Bool.and_eq_true, decide_eq_true_eq, List.all_eq_true, Bool.not_eq_true'] at one
  exact .intro one.1 fun _ _ deeper => nomatch one.2 _ deeper

@[simp] theorem keys_cons (key : String) (v : Value) (rest : Fields) : keys ((key, v) :: rest) = key :: keys rest := rfl

@[simp] theorem get?_nil (key : String) : get? [] key = none := rfl

@[simp] theorem at?_nil (fields : Fields) : at? fields [] = some (.table fields) := rfl

theorem at?_cons (fields : Fields) (key : String) (path : List String) :
    at? fields (key :: path) = (get? fields key).bind fun v => v.at? path := rfl

theorem get?_eq_none_iff {fields : Fields} {key : String} : get? fields key = none ↔ key ∉ keys fields := by
  induction fields with
  | nil => simp [keys]
  | cons pair rest ih =>
    obtain ⟨k, v⟩ := pair
    rw [get?_cons, keys_cons, List.mem_cons, not_or, ← ih]
    by_cases same : key = k <;> simp [same]

theorem mem_of_get? {fields : Fields} {key : String} {v : Value} (found : get? fields key = some v) :
    (key, v) ∈ fields := by
  induction fields with
  | nil => cases found
  | cons pair rest ih =>
    obtain ⟨k, w⟩ := pair
    rw [get?_cons] at found
    split at found
    · rename_i same
      obtain rfl := Option.some.inj found
      exact same ▸ List.mem_cons_self ..
    · exact List.mem_cons_of_mem _ (ih found)

theorem mem_keys_of_mem {fields : Fields} {key : String} {v : Value} (there : (key, v) ∈ fields) : key ∈ keys fields :=
  List.mem_map_of_mem (f := Prod.fst) there

theorem get?_of_mem {fields : Fields} (unique : (keys fields).Nodup) {key : String} {v : Value}
    (there : (key, v) ∈ fields) : get? fields key = some v := by
  induction fields with
  | nil => cases there
  | cons pair rest ih =>
    obtain ⟨k, w⟩ := pair
    obtain ⟨absent, unique⟩ := List.nodup_cons.mp unique
    rw [get?_cons]
    rcases List.mem_cons.mp there with same | later
    · obtain ⟨rfl, rfl⟩ := Prod.mk.inj same
      exact if_pos rfl
    · have other : key ≠ k := by
        rintro rfl
        exact absent (mem_keys_of_mem later)
      rw [if_neg other, ih unique later]

theorem ext_of_keys {left right : Fields} (unique : (keys left).Nodup) (order : keys left = keys right)
    (same : ∀ key, get? left key = get? right key) : left = right := by
  induction left generalizing right with
  | nil => exact (List.map_eq_nil_iff.mp order.symm).symm
  | cons pair rest ih =>
    obtain ⟨key, v⟩ := pair
    cases right with
    | nil => cases order
    | cons pair' rest' =>
      obtain ⟨key', v'⟩ := pair'
      rw [keys_cons, keys_cons, List.cons.injEq] at order
      obtain ⟨rfl, order⟩ := order
      obtain ⟨absent, unique⟩ := List.nodup_cons.mp unique
      have here : v = v' := by simpa [get?_cons] using same key
      have others (k : String) : get? rest k = get? rest' k := by
        by_cases first : k = key
        · rw [first, get?_eq_none_iff.mpr absent, get?_eq_none_iff.mpr (order ▸ absent)]
        · simpa [get?_cons, first] using same k
      rw [here, ih unique order others]

theorem keys_insert (fields : Fields) (key : String) (v : Value) :
    keys (insert fields key v) = if key ∈ keys fields then keys fields else keys fields ++ [key] := by
  induction fields with
  | nil => rfl
  | cons pair rest ih =>
    obtain ⟨k, w⟩ := pair
    by_cases same : k = key
    · simp [insert, same]
    · rw [insert, if_neg same, keys_cons, ih, keys_cons]
      simp only [List.mem_cons, Ne.symm same, false_or]
      split <;> rfl

theorem WellKeyed.of_get? {fields inside : Fields} {key : String} (h : WellKeyed fields)
    (found : get? fields key = some (.table inside)) : WellKeyed inside := by
  obtain ⟨-, below⟩ := h
  exact below key inside (mem_of_get? found)

theorem WellKeyed.tableAt {fields : Fields} (h : WellKeyed fields) (key : String) : WellKeyed (tableAt fields key) := by
  unfold Fields.tableAt
  split
  · rename_i found
    exact h.of_get? found
  · exact .nil

theorem tableAt_of_get? {fields inside : Fields} {key : String} (found : get? fields key = some (.table inside)) :
    tableAt fields key = inside := by
  rw [tableAt, found]

theorem at?_tableAt (fields : Fields) (key next : String) (path : List String) :
    at? (tableAt fields key) (next :: path) = at? fields (key :: next :: path) := by
  rw [at?_cons fields, tableAt]
  cases get? fields key with
  | none => rfl
  | some v =>
    cases v with
    | table below => rfl
    | _ => rfl

end Fields
end AsmScope
