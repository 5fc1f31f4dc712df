import AsmScope.Document.Json
import AsmScope.Proofs.Text.Escaped

/-! Documents of truth values, texts, lists and tables have one compact form each, also when more text follows.
Numbers are left out: they have no end of their own, and a moment is written as a text is. -/

namespace AsmScope.Json
open AsmScope.Text

/-- A document without numbers and moments. -/
inductive IsPlain : Value → Prop where
  | null : IsPlain .null
  | true : IsPlain (.bool true)
  | false : IsPlain (.bool false)
  | string (s : String) : IsPlain (.string s)
  | list {items : List Value} (all : ∀ v ∈ items, IsPlain v) : IsPlain (.list items)
  | table {fields : Fields} (all : ∀ field ∈ fields, IsPlain field.2) : IsPlain (.table fields)

theorem IsPlain.bool (b : Bool) : IsPlain (.bool b) := by
  cases b with
  | true => exact .true
  | false => exact .false

theorem isPlain_strings (texts : List String) : IsPlain (.strings texts) := by
  refine .list fun v hv => ?_
  obtain ⟨s, -, rfl⟩ := List.mem_map.mp hv
  exact .string s

@[simp] theorem compact_comma : compact.comma = [','] := rfl

@[simp] theorem compact_colon : compact.colon = [':'] := rfl

@[simp] theorem newLine_compact (depth : Nat) : compact.newLine depth = [] := rfl

theorem writeString_append_inj {s t : String} {r r' : List Char}
    (h : writeString compact s ++ r = writeString compact t ++ r') : s = t ∧ r = r' := by
  simp only [writeString, List.cons_append, List.append_assoc, List.nil_append, List.cons.injEq, true_and] at h
  obtain ⟨characters, rest⟩ := escape_append_inj _ h
  exact ⟨String.toList_inj.mp characters, rest⟩

def item (depth : Nat) (v : Value) : List Char := ',' :: write compact depth v

def field (depth : Nat) (p : String × Value) : List Char :=
  ',' :: (writeString compact p.1 ++ ':' :: write compact depth p.2)

theorem writeItems_compact (depth : Nat) (items : List Value) :
    writeItems compact depth items = items.flatMap (item depth) := by
  induction items with
  | nil => rfl
  | cons v rest ih => simp [writeItems, ih, item]

theorem writeFields_compact (depth : Nat) (fields : Fields) :
    writeFields compact depth fields = fields.flatMap (field depth) := by
  induction fields with
  | nil => rfl
  | cons p rest ih => simp [writeFields, ih, field]

theorem write_list (depth : Nat) (items : List Value) :
    write compact depth (.list items) = '[' :: ((items.flatMap (item (depth + 1))).tail ++ [']']) := by
  cases items with
  | nil => rfl
  | cons v rest => simp [write, writeItems_compact, item]

theorem write_table (depth : Nat) (fields : Fields) :
    write compact depth (.table fields) = '\x7b' :: ((fields.flatMap (field (depth + 1))).tail ++ ['\x7d']) := by
  cases fields with
  | nil => rfl
  | cons p rest => simp [write, writeFields_compact, field]

theorem write_ne_close {v : Value} (hv : IsPlain v) (depth : Nat) (r s : List Char) :
    write compact depth v ++ r ≠ ']' :: s := by
  cases hv with
  | null => simp [write]
  | true => simp [write]
  | false => simp [write]
  | string s => simp [write, writeString]
  | list all => simp [write_list]
  | table all => simp [write_table]

theorem row_append_inj {α : Type} {f : α → List Char} {close : Char} {xs ys : List α} {r r' : List Char}
    (inj : ∀ x ∈ xs, ∀ y ∈ ys, ∀ {r r' : List Char}, f x ++ r = f y ++ r' → x = y ∧ r = r')
    (begins : ∀ x, ∃ t, f x = ',' :: t) (differs : close ≠ ',')
    (left : ∀ x ∈ xs, ∀ r s, (f x).tail ++ r ≠ close :: s) (right : ∀ y ∈ ys, ∀ r s, (f y).tail ++ r ≠ close :: s)
    (h : (xs.flatMap f).tail ++ close :: r = (ys.flatMap f).tail ++ close :: r') : xs = ys ∧ r = r' := by
  have open_ne : ∀ x r s, f x ++ r ≠ close :: s := by
    intro x r s same
    obtain ⟨t, ht⟩ := begins x
    rw [ht, List.cons_append, List.cons.injEq] at same
    exact differs same.1.symm
  have tails : ∀ x (zs : List α), ((x :: zs).flatMap f).tail = (f x).tail ++ zs.flatMap f := by
    intro x zs
    obtain ⟨t, ht⟩ := begins x
    rw [List.flatMap_cons, ht, List.cons_append, List.tail_cons, List.tail_cons]
  have heads : ∀ x (zs : List α), (x :: zs).flatMap f = ',' :: ((x :: zs).flatMap f).tail := by
    intro x zs
    obtain ⟨t, ht⟩ := begins x
    rw [List.flatMap_cons, ht, List.cons_append, List.tail_cons]
  cases xs with
  | nil =>
    cases ys with
    | nil => simpa using h
    | cons y ys =>
      rw [tails, List.append_assoc] at h
      exact absurd h.symm (right y List.mem_cons_self _ _)
  | cons x xs =>
    cases ys with
    | nil =>
      rw [tails, List.append_assoc] at h
      exact absurd h (left x List.mem_cons_self _ _)
    | cons y ys =>
      refine flatMap_append_inj inj (fun x _ => open_ne x) (fun y _ => open_ne y) ?_
      rw [heads x, heads y, List.cons_append, List.cons_append, h]

theorem item_append_inj {depth : Nat} {v w : Value} {r r' : List Char}
    (inj : ∀ {r r' : List Char}, write compact depth v ++ r = write compact depth w ++ r' → v = w ∧ r = r')
    (h : item depth v ++ r = item depth w ++ r') : v = w ∧ r = r' := by
  simp only [item, List.cons_append, List.cons.injEq, true_and] at h
  exact inj h

theorem field_append_inj {depth : Nat} {p q : String × Value} {r r' : List Char}
    (inj : ∀ {r r' : List Char}, write compact depth p.2 ++ r = write compact depth q.2 ++ r' →
      p.2 = q.2 ∧ r = r')
    (h : field depth p ++ r = field depth q ++ r') : p = q ∧ r = r' := by
  simp only [field, List.cons_append, List.append_assoc, List.cons.injEq, true_and] at h
  obtain ⟨names, h⟩ := writeString_append_inj h
  simp only [List.cons.injEq, true_and] at h
  obtain ⟨values, rest⟩ := inj h
  exact ⟨Prod.ext names values, rest⟩

/-- No plain document is the beginning of another, so what follows one is known as well. -/
theorem write_append_inj {v w : Value} (hv : IsPlain v) (hw : IsPlain w) {depth : Nat} {r r' : List Char}
    (h : write compact depth v ++ r = write compact depth w ++ r') : v = w ∧ r = r' := by
  induction hv generalizing w depth r r' with
  | null => cases hw <;> simp_all [write, write_list, write_table, writeString]
  | true => cases hw <;> simp_all [write, write_list, write_table, writeString]
  | false => cases hw <;> simp_all [write, write_list, write_table, writeString]
  | string s =>
    cases hw with
    | string t =>
      obtain ⟨rfl, rest⟩ := writeString_append_inj h
      exact ⟨rfl, rest⟩
    | _ => simp_all [write, write_list, write_table, writeString]
  | list all ih =>
    cases hw with
    | list all' =>
      simp only [write_list, List.cons_append, List.append_assoc, List.nil_append, List.cons.injEq, true_and] at h
      obtain ⟨rfl, rest⟩ := row_append_inj
        (fun v hv w hw => item_append_inj fun same => ih v hv (all' w hw) same)
        (fun _ => ⟨_, rfl⟩) (by decide)
        (fun v hv => write_ne_close (all v hv) _) (fun w hw => write_ne_close (all' w hw) _) h
      exact ⟨rfl, rest⟩
    | _ => simp_all [write, write_list, write_table, writeString]
  | table all ih =>
    cases hw with
    | table all' =>
      simp only [write_table, List.cons_append, List.append_assoc, List.nil_append, List.cons.injEq, true_and] at h
      obtain ⟨rfl, rest⟩ := row_append_inj
        (fun p hp q hq => field_append_inj fun same => ih p hp (all' q hq) same)
        (fun _ => ⟨_, rfl⟩) (by decide)
        (fun p _ => by simp [field, writeString]) (fun q _ => by simp [field, writeString]) h
      exact ⟨rfl, rest⟩
    | _ => simp_all [write, write_list, write_table, writeString]

theorem render_compact_injective {v w : Value} (hv : IsPlain v) (hw : IsPlain w)
    (h : render compact v = render compact w) : v = w := by
  have same : write compact 0 v ++ [] = write compact 0 w ++ [] := by
    simpa only [List.append_nil] using String.ofList_injective h
  exact (write_append_inj hv hw same).1

end AsmScope.Json
