import AsmScope.Proofs.Listing.Attribution
import AsmScope.Proofs.Listing.Reach

/-! Data and the labels that own it. Where directives are hidden, data is shown if the label last defined above it is
used and no directive has ended the block since. The walk departs from this in two ways: any mention of a block's end
takes the owner away, and an unused label before an instruction does not take over from the one above. -/

namespace AsmScope.Listing
open AsmScope.Text

structure Defines (line : List Char) : Prop where
  kind : classify line = .label ∨ classify line = .instruction
  named : ∃ name, label? line = some name

instance (line : List Char) : Decidable (Defines line) :=
  decidable_of_iff ((classify line = .label ∨ classify line = .instruction) ∧ (label? line).isSome = true)
    ⟨fun ⟨kind, named⟩ => ⟨kind, Option.isSome_iff_exists.mp named⟩,
      fun ⟨kind, named⟩ => ⟨kind, Option.isSome_iff_exists.mpr named⟩⟩

/-- What stands below the lines belongs to the label: it is the last one defined, and no directive has ended the block
since. -/
def BelongsTo (name : Name) (above : List (List Char)) : Prop :=
  ∃ head since, Latest Defines above head since ∧ label? head = some name ∧ ∀ l ∈ since, isBlockEnd l = false

/-- A line that settles the owner: a label alone, or a used one before an instruction. -/
def TakesOver (used : List Name) (line : List Char) : Prop :=
  classify line = .label ∨ classify line = .instruction ∧ ∃ name ∈ used, label? line = some name

/-- A used label owns the data, but the end of a block is mentioned since. -/
def Position.LosesOwner (used : List Name) (p : Position) : Prop :=
  ∃ head since, Latest Defines p.above head since ∧ (∃ name ∈ used, label? head = some name) ∧
    (∀ l ∈ since, isBlockEnd l = false) ∧ ∃ l ∈ since ++ [p.line], endsBlock l = true

/-- An unused label before an instruction owns the data, but a used one further up holds on to it. -/
def Position.KeepsFormerOwner (used : List Name) (p : Position) : Prop :=
  (∃ head since, Latest Defines p.above head since ∧ classify head = .instruction ∧
    ∀ name ∈ used, label? head ≠ some name) ∧
  ∃ former since, Latest (TakesOver used) p.above former since ∧ (∃ name ∈ used, label? former = some name) ∧
    ∀ l ∈ since ++ [p.line], endsBlock l = false

section Lines
variable {used : List Name} {line : List Char}

theorem exists_label_of_label (kind : classify line = .label) : ∃ name, label? line = some name := by
  unfold classify at kind
  split_ifs at kind with blank comment alone
  obtain ⟨⟨name, rest⟩, defined, -⟩ := (Option.any_eq_true ..).mp alone
  exact ⟨name, by rw [label?, defined]; rfl⟩

theorem label?_of_directive (kind : classify line = .directive) : label? line = none := by
  unfold classify at kind
  split_ifs at kind with blank comment alone data directive
  have undefined := (Bool.and_eq_true_iff.mp directive).2
  rw [label?, Option.isNone_iff_eq_none.mp undefined]
  rfl

theorem defines_of_takesOver (h : TakesOver used line) : Defines line := by
  rcases h with kind | ⟨kind, name, -, named⟩
  · exact ⟨.inl kind, exists_label_of_label kind⟩
  · exact ⟨.inr kind, name, named⟩

theorem not_takesOver_of_data (kind : classify line = .data) : ¬ TakesOver used line := by
  rintro (label | ⟨instruction, -⟩)
  · rw [kind] at label
    cases label
  · rw [kind] at instruction
    cases instruction

end Lines

section Step
variable {s : Standing} {t : Tables} {line : List Char} {name : Name}

theorem Standing.owner_own_of_takesOver (takes : TakesOver t.used line) :
    (s.own t (classify line) line).owner = some name ↔ label? line = some name ∧ name ∈ t.used := by
  rcases takes with kind | ⟨kind, given, used, named⟩
  · obtain ⟨given, named⟩ := exists_label_of_label kind
    simp only [Standing.own, kind, named, List.contains_eq_mem, decide_eq_true_eq, Option.some.injEq]
    by_cases used : given ∈ t.used
    · rw [if_pos used, Option.some.injEq]
      exact ⟨fun same => ⟨same, same ▸ used⟩, fun same => same.1⟩
    · rw [if_neg used]
      exact iff_of_false (by simp) fun same => used (same.1 ▸ same.2)
  · simp only [Standing.own, kind, named, List.contains_eq_mem, used, decide_true, if_true, Option.some.injEq]
    exact ⟨fun same => ⟨same, same ▸ used⟩, fun same => same.1⟩

theorem Standing.own_of_not_takesOver (stays : ¬ TakesOver t.used line) : s.own t (classify line) line = s := by
  unfold Standing.own
  split
  · rename_i kind _
    exact absurd (.inl kind) stays
  · rename_i given kind named
    have unused : given ∉ t.used := fun used => stays (.inr ⟨kind, given, used, named⟩)
    rw [if_neg (by simpa using unused)]
  · rfl

theorem Standing.owner_enter : (s.enter t line).owner = if endsBlock line then none else s.owner := by
  unfold Standing.enter
  cases endsBlock line <;> cases location? line <;> rfl

theorem Standing.owner_next_of_takesOver (takes : TakesOver t.used line) :
    (s.next t line).owner = some name ↔ label? line = some name ∧ name ∈ t.used := by
  have visible : classify line ≠ .blank := by
    rcases takes with kind | ⟨kind, -⟩ <;> simp [kind]
  rw [s.next_of_visible t visible, Standing.owner_own_of_takesOver takes]

theorem Standing.owner_next_of_not_takesOver (stays : ¬ TakesOver t.used line) :
    (s.next t line).owner = if endsBlock line then none else s.owner := by
  by_cases blank : classify line = .blank
  · rw [Standing.next, blank, (quiet_of_blank blank).1]
    rfl
  · rw [s.next_of_visible t blank, Standing.own_of_not_takesOver stays, Standing.owner_enter]

end Step

/-- The owner is the used label of the last line that settled it, if no line since mentions the end of a block. -/
theorem Standing.owner_after {t : Tables} {above : List (List Char)} {name : Name} :
    (Standing.initial.after t above).owner = some name ↔
      ∃ head since, Latest (TakesOver t.used) above head since ∧ (label? head = some name ∧ name ∈ t.used) ∧
        ∀ l ∈ since, endsBlock l = false := by
  induction above using List.reverseRecOn with
  | nil => exact iff_of_false (by simp [Standing.after, Standing.initial]) not_exists_latest_nil
  | append_singleton above line ih =>
    rw [Standing.after_concat]
    by_cases takes : TakesOver t.used line
    · rw [exists_latest_concat_of_pos takes, Standing.owner_next_of_takesOver takes]
      simp
    · rw [exists_latest_concat_of_neg takes, Standing.owner_next_of_not_takesOver takes]
      cases ends : endsBlock line with
      | true => simp [ends]
      | false =>
        simp only [Bool.false_eq_true, if_false, ih]
        simp [ends, or_imp, forall_and]

section Data
variable {f : Filters} {t : Tables} {p : Position}

theorem Position.isKept_iff (directives : f.directives = true) (data : classify p.line = .data) :
    p.isKept f t = true ↔
      ∃ head since, Latest (TakesOver t.used) p.above head since ∧ (∃ name ∈ t.used, label? head = some name) ∧
        ∀ l ∈ since ++ [p.line], endsBlock l = false := by
  have kept : p.isKept f t = (p.standing t).owner.isSome := by
    simp [Position.isKept, Listing.isKept, data, directives]
  have read (name : Name) : (p.standing t).owner = some name ↔
      ∃ head since, Latest (TakesOver t.used) p.above head since ∧ (label? head = some name ∧ name ∈ t.used) ∧
        ∀ l ∈ since ++ [p.line], endsBlock l = false := by
    rw [Position.standing, Standing.owner_after, Position.reading,
      exists_latest_concat_of_neg (not_takesOver_of_data data)]
  rw [kept, Option.isSome_iff_exists]
  constructor
  · rintro ⟨name, owner⟩
    obtain ⟨head, since, last, ⟨named, used⟩, quiet⟩ := (read name).mp owner
    exact ⟨head, since, last, ⟨name, used, named⟩, quiet⟩
  · rintro ⟨head, since, last, ⟨name, used, named⟩, quiet⟩
    exact ⟨name, (read name).mpr ⟨head, since, last, ⟨named, used⟩, quiet⟩⟩

/-- A used label that owns the data settles the owner; so does an unused one that stands alone. -/
theorem Latest.takesOver {used : List Name} {above : List (List Char)} {head : List Char} {since : List (List Char)}
    (last : Latest Defines above head since)
    (settles : classify head = .label ∨ ∃ name ∈ used, label? head = some name) :
    Latest (TakesOver used) above head since := by
  refine last.narrow ?_ fun line => defines_of_takesOver
  obtain ⟨-, -, ⟨kind, -⟩, -⟩ := last
  rcases settles with alone | named
  · exact .inl alone
  · exact kind.imp_right fun instruction => ⟨instruction, named⟩

theorem Position.not_isKept_of_losesOwner (directives : f.directives = true) (data : classify p.line = .data)
    (loses : p.LosesOwner t.used) : ¬ p.isKept f t = true := by
  rw [p.isKept_iff directives data]
  rintro ⟨head', since', last', -, silent⟩
  obtain ⟨head, since, last, named, -, l, there, mentions⟩ := loses
  obtain ⟨-, rfl⟩ := (last.takesOver (.inr named)).unique last'
  rw [silent l there] at mentions
  cases mentions

theorem Position.isKept_of_keepsFormerOwner (directives : f.directives = true) (data : classify p.line = .data)
    (keeps : p.KeepsFormerOwner t.used) : p.isKept f t = true :=
  (p.isKept_iff directives data).mpr keeps.2

theorem Position.isKept_by_owner_iff (directives : f.directives = true) (data : classify p.line = .data) :
    (p.isKept f t = true ↔ ∃ name ∈ t.used, BelongsTo name p.above) ↔
      ¬ p.LosesOwner t.used ∧ ¬ p.KeepsFormerOwner t.used := by
  constructor
  · intro rule
    refine ⟨fun loses => ?_, fun keeps => ?_⟩
    · have dropped := p.not_isKept_of_losesOwner directives data loses
      obtain ⟨head, since, last, ⟨name, used, named⟩, quiet, -⟩ := loses
      exact dropped (rule.mpr ⟨name, used, head, since, last, named, quiet⟩)
    · obtain ⟨name, used, head, since, last, named, -⟩ :=
        rule.mp (p.isKept_of_keepsFormerOwner directives data keeps)
      obtain ⟨head', since', last', -, unused⟩ := keeps.1
      obtain ⟨rfl, -⟩ := last.unique last'
      exact unused name used named
  · rintro ⟨holds, yields⟩
    rw [p.isKept_iff directives data]
    constructor
    · rintro ⟨former, since', settled, ⟨name, used, named⟩, silent⟩
      obtain ⟨head, since, last⟩ : ∃ head since, Latest Defines p.above head since := by
        obtain ⟨-, -, takes, -⟩ := id settled
        exact exists_latest settled.mem (defines_of_takesOver takes)
      by_cases settles : classify head = .label ∨ ∃ name ∈ t.used, label? head = some name
      · obtain ⟨rfl, rfl⟩ := (last.takesOver settles).unique settled
        refine ⟨name, used, head, since, last, named, fun l there => ?_⟩
        exact not_isBlockEnd_of_quiet (silent l (List.mem_append_left _ there))
      · rw [not_or] at settles
        refine absurd ⟨⟨head, since, last, ?_, fun name used named => settles.2 ⟨name, used, named⟩⟩,
          former, since', settled, ⟨name, used, named⟩, silent⟩ yields
        obtain ⟨-, -, ⟨kind, -⟩, -⟩ := last
        exact kind.resolve_left settles.1
    · rintro ⟨name, used, head, since, last, named, quiet⟩
      refine ⟨head, since, last.takesOver (.inr ⟨name, used, named⟩), ⟨name, used, named⟩, fun l there => ?_⟩
      by_contra mentions
      exact holds ⟨head, since, last, ⟨name, used, named⟩, quiet, l, there, Bool.not_eq_false _ ▸ mentions⟩

theorem BelongsTo.owns {name : Name} (data : classify p.line = .data) (belongs : BelongsTo name p.above)
    (unlabelled : ∀ l ∈ p.reading, classify l = .data → label? l = none) : Owns name p.reading := by
  obtain ⟨head, since, last, named, -⟩ := belongs
  have other {l : List Char} (there : l ∈ p.reading) (plain : ¬ Defines l) : ¬ IsHead l := by
    rintro ⟨owner, visible, spoken, label⟩
    cases kind : classify l with
    | blank => exact visible kind
    | comment => exact spoken kind
    | label => exact plain ⟨.inl kind, owner, label⟩
    | instruction => exact plain ⟨.inr kind, owner, label⟩
    | data =>
      rw [unlabelled l there kind] at label
      cases label
    | directive =>
      rw [label?_of_directive kind] at label
      cases label
  have here : ¬ Defines p.line := by
    rintro ⟨kind | kind, -⟩ <;> simp [data] at kind
  obtain ⟨above, same, defines, later⟩ := last
  have heads : Heads name head := by
    rcases defines.kind with kind | kind
    · exact ⟨by simp [kind], by simp [kind], named⟩
    · exact ⟨by simp [kind], by simp [kind], named⟩
  refine ⟨head, since ++ [p.line], ⟨above, by simp [Position.reading, same], ⟨name, heads⟩, fun l there => ?_⟩, heads⟩
  have inside : l ∈ p.reading := by
    rw [Position.reading, same]
    simp only [List.append_assoc, List.cons_append, List.mem_append, List.mem_cons] at there ⊢
    tauto
  rcases List.mem_append.mp there with there | there
  · exact other inside (later l there)
  · exact other inside (List.mem_singleton.mp there ▸ here)

end Data

/-- Data follows its owner, except where it loses it or keeps a former one. The kept lines of a text whose numerals are not
too long are listed in order, and no other text has a listing. By the rule data is kept, where directives are
hidden, if the label last defined above it is used and no directive has ended the block since. The rule is followed just
if no mention of a block's end takes the owner away and no used label is held on to past an unused one before an
instruction. The owner is the label that the references of the data are charged to. -/
theorem data_kept_by_owner_iff {view : View} {f : Filters} {text : String} {lines : List (List Char)}
    (cut : listingLines text.toList = lines) (filled : text ≠ "") (textual : f.binary = false)
    (several : isNotice lines = false) (directives : f.directives = true) :
    (IsLegible f text → read view f text = .ok
      (finished view f (((positions lines).filter (Position.isKept f (tablesOf view.primary f lines))).map
        (Position.shown (tablesOf view.primary f lines))))) ∧
      (¬ IsLegible f text → ∃ e, read view f text = .error e) ∧
      ∀ p ∈ positions lines, classify p.line = .data →
        ((p.isKept f (tablesOf view.primary f lines) = true ↔ ∃ name ∈ usedLabels true lines, BelongsTo name p.above) ↔
          ¬ p.LosesOwner (usedLabels true lines) ∧ ¬ p.KeepsFormerOwner (usedLabels true lines)) ∧
        (p.LosesOwner (usedLabels true lines) → p.isKept f (tablesOf view.primary f lines) = false) ∧
        (p.KeepsFormerOwner (usedLabels true lines) → p.isKept f (tablesOf view.primary f lines) = true) ∧
        ((∀ l ∈ p.reading, classify l = .data → label? l = none) →
          ∀ name, BelongsTo name p.above → Owns name p.reading) := by
  refine ⟨read_eq_finished cut filled textual several, read_of_illegible, fun p _ data => ?_⟩
  have used : (tablesOf view.primary f lines).used = usedLabels true lines := by
    rw [← directives]
    rfl
  rw [← used]
  refine ⟨p.isKept_by_owner_iff directives data, fun loses => ?_, p.isKept_of_keepsFormerOwner directives data,
    fun unlabelled name belongs => belongs.owns data unlabelled⟩
  exact Bool.eq_false_iff.mpr (p.not_isKept_of_losesOwner directives data loses)

def ownedData : String := ".LC0:\n\t.string\t\"hello\"\nspare:\n\t.long\t42\nmain:\n\tlea\t.LC0(%rip), %rdi\n"

theorem data_kept_by_owner_iff_ownedData :
    (read {} { directives := true } ownedData).map (List.map Line.text) =
        .ok [".LC0:", "        .string \"hello\"", "spare:", "main:", "        lea     .LC0(%rip), %rdi"] ∧
      (Position.isKept { directives := true } (tablesOf none { directives := true } (listingLines ownedData.toList))
          ⟨[".LC0:".toList], "\t.string\t\"hello\"".toList⟩ = true ↔
        ∃ name ∈ usedLabels true (listingLines ownedData.toList), BelongsTo name [".LC0:".toList]) := by
  obtain ⟨listed, -, kept⟩ :=
    @data_kept_by_owner_iff {} { directives := true } ownedData _ rfl (by decide) rfl (by decide) rfl
  refine ⟨by rw [listed (by decide)]; decide +kernel, ?_⟩
  have string : (⟨[".LC0:".toList], "\t.string\t\"hello\"".toList⟩ : Position) ∈
      positions (listingLines ownedData.toList) :=
    mem_positions.mpr ⟨(listingLines ownedData.toList).drop 2, by decide⟩
  obtain ⟨rule, -⟩ := kept _ string (by decide)
  have first : Latest Defines [".LC0:".toList] ".LC0:".toList [] := ⟨[], by decide, by decide, by decide⟩
  refine rule.mpr ⟨?_, ?_⟩
  · rintro ⟨head, since, last, -, -, l, there, mentions⟩
    obtain ⟨-, rfl⟩ := first.unique last
    obtain rfl := List.mem_singleton.mp there
    exact absurd mentions (by decide)
  · rintro ⟨⟨head, since, last, instruction, -⟩, -⟩
    obtain ⟨rfl, -⟩ := first.unique last
    exact absurd instruction (by decide)

def lostData : String := ".LC0:\n\t.string\t\"see .text\"\n\tlea\t.LC0(%rip), %rdi\n"

def borrowedData : String := ".LC0:\n\t.long\t1\nspare: nop\n\t.long\t2\n\tlea\t.LC0(%rip), %rdi\n"

/-- Data that belongs to a used label is dropped for what is quoted in it, and data that belongs to an unused label, and is
charged to it, is kept. -/
theorem data_against_owner :
    (BelongsTo ".LC0".toList ((listingLines lostData.toList).take 1) ∧
      ".LC0".toList ∈ usedLabels true (listingLines lostData.toList) ∧
      (read {} { directives := true } lostData).map (List.map Line.text) =
        .ok [".LC0:", "        lea     .LC0(%rip), %rdi"]) ∧
    BelongsTo "spare".toList ((listingLines borrowedData.toList).take 3) ∧
      Owns "spare".toList ((listingLines borrowedData.toList).take 4) ∧
      "spare".toList ∉ usedLabels true (listingLines borrowedData.toList) ∧
      (read {} { directives := true } borrowedData).map (List.map Line.text) =
        .ok [".LC0:", "        .long   1", "spare: nop", "        .long   2", "        lea     .LC0(%rip), %rdi"] := by
  have alone : Latest Defines ((listingLines lostData.toList).take 1) ".LC0:".toList [] :=
    ⟨[], by decide, by decide, by decide⟩
  have spare : Latest Defines ((listingLines borrowedData.toList).take 3) "spare: nop".toList [] :=
    ⟨(listingLines borrowedData.toList).take 2, by decide, by decide, by decide⟩
  have charged : Latest IsHead ((listingLines borrowedData.toList).take 4) "spare: nop".toList ["\t.long\t2".toList] :=
    ⟨(listingLines borrowedData.toList).take 2, by decide, by decide, by decide⟩
  refine ⟨⟨⟨_, [], alone, by decide, by simp⟩, by decide +kernel, by decide +kernel⟩, ⟨_, [], spare, by decide, by simp⟩,
    ⟨_, _, charged, by decide, by decide, by decide⟩, by decide +kernel, by decide +kernel⟩

end AsmScope.Listing
