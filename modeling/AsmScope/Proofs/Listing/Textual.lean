import AsmScope.Listing.Textual
import AsmScope.Proofs.Listing.Kind
import AsmScope.Proofs.Listing.Labels

/-! The walk over assembler text. Each line is shown or not by what the lines above it say. Filters that hide
more only show less: the place in the source does not depend on them, and a line that is owned by a used label under
the stronger filters is owned by one under the weaker. -/

namespace AsmScope.Listing
open AsmScope.Text

theorem textualFrom_cons (f : Filters) (t : Tables) (s : Standing) (line : List Char) (rest : List (List Char)) :
    textualFrom f t s (line :: rest) =
      (if isKept f t (s.next t line) (classify line) line then [shownLine (s.next t line) (classify line) line]
        else []) ++ textualFrom f t (s.next t line) rest := by
  rw [textualFrom]
  split <;> rfl

theorem mem_textualFrom {f : Filters} {t : Tables} {s : Standing} {lines : List (List Char)} {l : Line}
    (h : l ∈ textualFrom f t s lines) :
    ∃ line ∈ lines, ∃ here : Standing, isKept f t here (classify line) line = true ∧
      l = shownLine here (classify line) line := by
  induction lines generalizing s with
  | nil => cases h
  | cons line rest ih =>
    rw [textualFrom_cons] at h
    rcases List.mem_append.mp h with h | h
    · split at h
      · rename_i kept
        exact ⟨line, List.mem_cons_self .., s.next t line, kept, List.mem_singleton.mp h⟩
      · cases h
    · obtain ⟨line', there, found⟩ := ih h
      exact ⟨line', List.mem_cons_of_mem _ there, found⟩

theorem classify_eq_blank_iff (line : List Char) : classify line = .blank ↔ line.all isBlank = true := by
  unfold classify
  split
  · simp_all
  · rename_i visible
    refine ⟨fun blank => ?_, fun blank => absurd blank visible⟩
    split at blank
    · cases blank
    · split at blank
      · cases blank
      · split at blank
        · cases blank
        · split at blank <;> cases blank

theorem shownLine_text (s : Standing) (line : List Char) :
    (shownLine s (classify line) line).text =
      if line.all isBlank then "" else String.ofList (expandTabs line) := by
  unfold shownLine
  split
  · rename_i blank
    rw [if_pos ((classify_eq_blank_iff line).mp blank)]
  · rename_i visible
    rw [if_neg fun blank => visible ((classify_eq_blank_iff line).mpr blank)]

section Order
variable {f g : Filters}

structure HidesMore (f g : Filters) : Prop where
  directives : f.directives = true → g.directives = true
  labels : f.labels = true → g.labels = true
  commentOnly : f.commentOnly = true → g.commentOnly = true

/-- The second tables know the same files and use the labels that the first ones use, or fewer. -/
structure Tables.UsesLess (t u : Tables) : Prop where
  files : u.files = t.files
  primary : u.primary = t.primary
  used : u.used ⊆ t.used

/-- Both stand at the same place, and who has an owner under the stronger filters has one under the weaker. -/
structure Standing.OwnsLess (s r : Standing) : Prop where
  source : r.source = s.source
  owner : r.owner.isSome = true → s.owner.isSome = true

variable {t u : Tables} {s r : Standing}

theorem Tables.UsesLess.locate (h : t.UsesLess u) (file line : Nat) : u.locate file line = t.locate file line := by
  rw [Tables.locate, Tables.locate, h.files, h.primary]

theorem Standing.OwnsLess.enter (h : s.OwnsLess r) (less : t.UsesLess u) (line : List Char) :
    (s.enter t line).OwnsLess (r.enter u line) := by
  unfold Standing.enter
  cases location? line with
  | none =>
    simp only
    split
    · exact ⟨rfl, id⟩
    · exact h
  | some place =>
    simp only [less.locate]
    split
    · exact ⟨rfl, id⟩
    · exact ⟨rfl, h.owner⟩

theorem Standing.OwnsLess.own (h : s.OwnsLess r) (less : t.UsesLess u) (kind : Kind) (line : List Char) :
    (s.own t kind line).OwnsLess (r.own u kind line) := by
  have sooner (name : Name) : u.used.contains name = true → t.used.contains name = true := by
    simpa using @less.used name
  unfold Standing.own
  split
  · rename_i name _
    refine ⟨h.source, fun owned => ?_⟩
    cases used : u.used.contains name with
    | false =>
      rw [used] at owned
      cases owned
    | true => simp only [sooner name used, if_true, Option.isSome_some]
  · rename_i name _
    cases used : u.used.contains name with
    | false =>
      cases used' : t.used.contains name with
      | false => exact h
      | true => exact ⟨h.source, fun _ => rfl⟩
    | true =>
      rw [sooner name used]
      exact ⟨h.source, fun _ => rfl⟩
  · exact h

theorem Standing.OwnsLess.next (h : s.OwnsLess r) (less : t.UsesLess u) (line : List Char) :
    (s.next t line).OwnsLess (r.next u line) := by
  unfold Standing.next
  split
  · exact h
  · exact (h.enter less line).own less _ line

theorem isKept_of_hidesMore (more : HidesMore f g) (less : t.UsesLess u) (h : s.OwnsLess r) (kind : Kind)
    (line : List Char) (kept : isKept g u r kind line = true) : isKept f t s kind line = true := by
  have off {a b : Bool} (order : a = true → b = true) (h : (!b) = true) : (!a) = true := by
    cases a <;> simp_all
  cases kind with
  | blank => rfl
  | instruction => rfl
  | comment => exact off more.commentOnly kept
  | directive => exact off more.directives kept
  | label =>
    simp only [isKept, Bool.or_eq_true] at kept ⊢
    refine kept.imp (off more.labels) fun used => ?_
    cases named : label? line with
    | none => rw [named] at used; cases used
    | some name =>
      rw [named] at used
      simpa using less.used (by simpa using used)
  | data =>
    simp only [isKept, Bool.or_eq_true] at kept ⊢
    exact kept.imp (off more.directives) h.owner

theorem shownLine_of_ownsLess (h : s.OwnsLess r) (kind : Kind) (line : List Char) :
    shownLine r kind line = shownLine s kind line := by
  unfold shownLine
  rw [h.source]

theorem textualFrom_sublist (more : HidesMore f g) (less : t.UsesLess u) (h : s.OwnsLess r)
    (lines : List (List Char)) : (textualFrom g u r lines).Sublist (textualFrom f t s lines) := by
  induction lines generalizing s r with
  | nil => exact List.Sublist.refl _
  | cons line rest ih =>
    have next := h.next less line
    rw [textualFrom_cons, textualFrom_cons, shownLine_of_ownsLess next]
    refine List.Sublist.append ?_ (ih next)
    split
    · rename_i kept
      rw [if_pos (isKept_of_hidesMore more less next _ line kept)]
    · exact List.nil_sublist _

theorem usesLess_tablesOf (more : HidesMore f g) (primary : Option String) (lines : List (List Char)) :
    (tablesOf primary f lines).UsesLess (tablesOf primary g lines) :=
  ⟨rfl, rfl, usedLabels_subset more.directives lines⟩

theorem textual_sublist (more : HidesMore f g) (primary : Option String) (lines : List (List Char)) :
    (textual primary g lines).Sublist (textual primary f lines) :=
  textualFrom_sublist more (usesLess_tablesOf more primary lines) ⟨rfl, id⟩ lines

end Order

theorem textualFrom_texts_of_off {f : Filters} (directives : f.directives = false) (labels : f.labels = false)
    (comments : f.commentOnly = false) (t : Tables) (s : Standing) (lines : List (List Char)) :
    (textualFrom f t s lines).map Line.text =
      lines.map fun line => if line.all isBlank then "" else String.ofList (expandTabs line) := by
  induction lines generalizing s with
  | nil => rfl
  | cons line rest ih =>
    have kept (kind : Kind) (here : Standing) : isKept f t here kind line = true := by
      cases kind <;> simp [isKept, directives, labels, comments]
    rw [textualFrom_cons, if_pos (kept _ _), List.map_append, ih, List.map_singleton, shownLine_text]
    rfl

end AsmScope.Listing
