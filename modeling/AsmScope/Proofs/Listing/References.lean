import AsmScope.Proofs.Listing.Filtering
import AsmScope.Proofs.Text.Numeral

/-! Which labels are found used. Labels and references to them are read by two grammars: a label may have an at sign
in it and a dollar sign at its beginning, a reference may not. A name that both grammars allow is found wherever it
stands as a whole word; any other name of a label is never found, and its label is dropped with the unused ones. -/

namespace AsmScope.Listing
open AsmScope.Text

def IsLabelName (name : Name) : Prop :=
  ∃ c r, name = c :: r ∧ isLabelStart c = true ∧ ∀ d ∈ r, isLabelChar d = true

def IsReference (name : Name) : Prop :=
  ∃ c r, name = c :: r ∧ isReferenceStart c = true ∧ ∀ d ∈ r, isReferenceChar d = true

theorem isLabelStart_eq (c : Char) : isLabelStart c = (isReferenceStart c || c == '$') := by
  simp only [isLabelStart, isReferenceStart]
  ac_rfl

theorem isLabelChar_eq (c : Char) : isLabelChar c = (isReferenceChar c || c == '@') := by
  simp only [isLabelChar, isReferenceChar, isReferenceStart]
  ac_rfl

theorem isLabelChar_of_isReferenceChar {c : Char} (h : isReferenceChar c = true) : isLabelChar c = true := by
  rw [isLabelChar_eq, h, Bool.true_or]

theorem isReferenceChar_of_isReferenceStart {c : Char} (h : isReferenceStart c = true) : isReferenceChar c = true := by
  rw [isReferenceChar, h, Bool.true_or, Bool.true_or]

theorem isReferenceChar_of_not_isLabelChar {c : Char} (h : isLabelChar c = false) : isReferenceChar c = false := by
  by_contra reads
  rw [isLabelChar_of_isReferenceChar (Bool.not_eq_false _ ▸ reads)] at h
  cases h

theorem IsReference.all {name : Name} (h : IsReference name) : ∀ c ∈ name, isReferenceChar c = true := by
  obtain ⟨c, r, rfl, starts, reads⟩ := h
  exact List.forall_mem_cons.mpr ⟨isReferenceChar_of_isReferenceStart starts, reads⟩

/-- The names that only labels may have. -/
theorem isReference_iff {name : Name} (label : IsLabelName name) :
    IsReference name ↔ '@' ∉ name ∧ name.head? ≠ some '$' := by
  obtain ⟨c, r, rfl, starts, reads⟩ := label
  constructor
  · intro h
    refine ⟨fun there => absurd (h.all _ there) (by decide), fun dollar => ?_⟩
    obtain ⟨d, s, same, begins, -⟩ := h
    obtain ⟨rfl, rfl⟩ := List.cons.inj same
    obtain rfl := Option.some.inj dollar
    exact absurd begins (by decide)
  · rintro ⟨plain, begins⟩
    refine ⟨c, r, rfl, ?_, fun d hd => ?_⟩
    · have other : (c == '$') = false := beq_eq_false_iff_ne.mpr fun dollar => begins (congrArg some dollar)
      rwa [isLabelStart_eq, other, Bool.or_false] at starts
    · have other : (d == '@') = false :=
        beq_eq_false_iff_ne.mpr fun mark => plain (mark ▸ List.mem_cons_of_mem _ hd)
      have here := reads d hd
      rwa [isLabelChar_eq, other, Bool.or_false] at here

section Found

theorem references_cons (c : Char) (r : List Char) :
    references (c :: r) =
      if isReferenceStart c then (c :: r.takeWhile isReferenceChar) :: references (r.dropWhile isReferenceChar)
      else references r := by
  rw [references]

theorem isReference_of_mem_references {s : List Char} {name : Name} (h : name ∈ references s) : IsReference name := by
  induction s using references.induct with
  | case1 => simp [references] at h
  | case2 c r starts ih =>
    rw [references_cons, if_pos starts] at h
    rcases List.mem_cons.mp h with rfl | h
    · exact ⟨c, _, rfl, starts, fun d hd => (List.mem_takeWhile_imp hd)⟩
    · exact ih h
  | case3 c r other ih =>
    rw [references_cons, if_neg other] at h
    exact ih h

theorem isReference_of_name? {s rest : List Char} {name : Name} (h : name? s = some (name, rest)) :
    IsReference name := by
  cases s with
  | nil => cases h
  | cons c r =>
    rw [name?] at h
    split at h
    · rename_i starts
      obtain ⟨rfl, -⟩ := Prod.mk.inj (Option.some.inj h)
      exact ⟨c, _, rfl, starts, fun d hd => List.mem_takeWhile_imp hd⟩
    · cases h

theorem isReference_of_declared? {line : List Char} {name : Name} (h : declared? line = some name) :
    IsReference name := by
  rcases Option.or_eq_some_iff.mp h with h | ⟨-, h⟩
  · obtain ⟨r, -, found⟩ := Option.bind_eq_some_iff.mp h
    obtain ⟨⟨_, rest⟩, named, rfl⟩ := Option.map_eq_some_iff.mp found
    exact isReference_of_name? named
  · obtain ⟨r, -, found⟩ := Option.bind_eq_some_iff.mp h
    obtain ⟨⟨operand, rest⟩, named, marked⟩ := Option.bind_eq_some_iff.mp found
    simp only at marked
    split at marked
    · split at marked
      · obtain rfl := Option.some.inj marked
        exact isReference_of_name? named
      · cases marked
    · cases marked

theorem isReference_of_mem_lineUsage {hide : Bool} {owner : Option Name} {line : List Char} {name : Name}
    (h : name ∈ (lineUsage hide owner line).direct ∨ ∃ o, (o, name) ∈ (lineUsage hide owner line).weak) :
    IsReference name := by
  have named (there : name ∈ (declared? line).toList) : IsReference name :=
    isReference_of_declared? (Option.mem_toList.mp there)
  have referred (there : name ∈ references (afterLabel line)) : IsReference name := isReference_of_mem_references there
  have both (there : name ∈ (declared? line).toList ++ references (afterLabel line)) : IsReference name :=
    (List.mem_append.mp there).elim named referred
  unfold lineUsage at h
  cases kind : classify line with
  | blank => simp [kind] at h
  | comment => simp [kind] at h
  | label =>
    simp only [kind, List.not_mem_nil, exists_false, or_false] at h
    exact named h
  | data =>
    simp only [kind] at h
    rcases h with h | ⟨o, h⟩
    · exact named h
    · obtain ⟨_, -, inside⟩ := List.mem_flatMap.mp h
      obtain ⟨_, there, same⟩ := List.mem_map.mp inside
      exact referred ((Prod.mk.inj same).2 ▸ there)
  | directive =>
    simp only [kind, List.not_mem_nil, exists_false, or_false] at h
    split at h
    · exact named h
    · exact both h
  | instruction =>
    simp only [kind, List.not_mem_nil, exists_false, or_false] at h
    split at h
    · exact both h
    · exact named h

theorem isReference_of_mem_usageFrom {hide : Bool} {owner : Option Name} {lines : List (List Char)} {name : Name}
    (h : name ∈ (usageFrom hide owner lines).direct ∨ ∃ o, (o, name) ∈ (usageFrom hide owner lines).weak) :
    IsReference name := by
  induction lines generalizing owner with
  | nil => simp [usageFrom] at h
  | cons line rest ih =>
    simp only [usageFrom, List.mem_append] at h
    rcases h with (h | h) | ⟨o, h | h⟩
    · exact isReference_of_mem_lineUsage (.inl h)
    · exact ih (.inl h)
    · exact isReference_of_mem_lineUsage (.inr ⟨o, h⟩)
    · exact ih (.inr ⟨o, h⟩)

theorem mem_spread {weak : List (Name × Name)} {n : Nat} {used : List Name} {name : Name}
    (h : name ∈ spread weak n used) : name ∈ used ∨ ∃ o, (o, name) ∈ weak := by
  induction n generalizing used with
  | zero => exact .inl h
  | succ n ih =>
    rw [spread_succ] at h
    rcases ih h with h | h
    · rcases List.mem_append.mp h with h | h
      · exact .inl h
      · obtain ⟨-, o, -, refers⟩ := mem_fresh.mp h
        exact .inr ⟨o, refers⟩
    · exact .inr h

theorem isReference_of_mem_usedLabels {hide : Bool} {lines : List (List Char)} {name : Name}
    (h : name ∈ usedLabels hide lines) : IsReference name :=
  isReference_of_mem_usageFrom ((mem_spread h).imp_left List.mem_eraseDups.mp)

end Found

/-- The name is a word of the text: no more of a label stands before or after it. -/
def StandsIn (name s : List Char) : Prop :=
  ∃ before after, s = before ++ (name ++ after) ∧ (∀ c ∈ before.getLast?, isLabelChar c = false) ∧
    ∀ c ∈ after.head?, isLabelChar c = false

theorem standsIn_last {name : Name} (lead : List Char) {stop : Char} (parts : isLabelChar stop = false) :
    StandsIn name (lead ++ stop :: name) := by
  refine ⟨lead ++ [stop], [], by simp, fun c hc => ?_, fun c hc => nomatch hc⟩
  rw [List.getLast?_concat] at hc
  obtain rfl := Option.some.inj hc
  exact parts

/-- The ways of a line to use a label outright. -/
inductive Refers (name : Name) (line : List Char) : Prop where
  | instruction (kind : classify line = .instruction) (opcode : hasOpcode line = true)
    (stands : StandsIn name (afterLabel line))
  | global {r rest : List Char} (declares : afterGlobal? (dropBlank line) = some r)
    (operand : someBlank? r = some (name ++ rest)) (ends : ∀ c ∈ rest.head?, isLabelChar c = false)
  | function {r rest mark : List Char} (declares : afterType? (dropBlank line) = some r)
    (operand : someBlank? r = some (name ++ rest)) (comma : dropBlank rest = ',' :: mark)
    (marked : isFunctionMark (dropBlank mark) = true)

/-- A character that no name has in it parts the names of a text. -/
theorem references_append {stop : Char} (parts : isReferenceChar stop = false) (lead rest : List Char) :
    references (lead ++ stop :: rest) = references lead ++ references rest := by
  induction lead using references.induct with
  | case1 =>
    have other : ¬ isReferenceStart stop = true := fun starts => by
      rw [isReferenceChar_of_isReferenceStart starts] at parts
      cases parts
    rw [List.nil_append, references_cons, if_neg other, references, List.nil_append]
  | case2 c lead starts ih =>
    have taken : (lead ++ stop :: rest).takeWhile isReferenceChar = lead.takeWhile isReferenceChar := by
      rw [List.takeWhile_append]
      split
      · rename_i whole
        rw [List.takeWhile_cons_of_neg (by simp [parts]), List.append_nil,
          (List.takeWhile_prefix isReferenceChar).eq_of_length whole]
      · rfl
    have left : (lead ++ stop :: rest).dropWhile isReferenceChar = lead.dropWhile isReferenceChar ++ stop :: rest := by
      simp [List.dropWhile_append, parts]
    rw [List.cons_append, references_cons, if_pos starts, taken, left, ih, references_cons, if_pos starts,
      List.cons_append]
  | case3 c lead other ih =>
    rw [List.cons_append, references_cons, if_neg other, ih, references_cons, if_neg other]

section Finding
variable {name : Name} (reference : IsReference name)
include reference

theorem name?_append {rest : List Char} (ends : ∀ c ∈ rest.head?, isLabelChar c = false) :
    name? (name ++ rest) = some (name, rest) := by
  obtain ⟨c, r, rfl, starts, reads⟩ := reference
  have ends' : ∀ d ∈ rest.head?, isReferenceChar d = false := fun d hd =>
    isReferenceChar_of_not_isLabelChar (ends d hd)
  rw [List.cons_append, name?, if_pos starts, takeWhile_run reads ends', dropWhile_run reads ends']

/-- A word is found: no name that begins before it runs into it, and its own name ends where it does. -/
theorem mem_references {s : List Char} (stands : StandsIn name s) : name ∈ references s := by
  obtain ⟨before, after, rfl, opens, closes⟩ := stands
  have first : name ∈ references (name ++ after) := by
    have named := name?_append reference closes
    obtain ⟨c, r, rfl, starts, -⟩ := reference
    rw [List.cons_append, name?, if_pos starts] at named
    rw [List.cons_append, references_cons, if_pos starts, (Prod.mk.inj (Option.some.inj named)).1]
    exact List.mem_cons_self ..
  rcases List.eq_nil_or_concat before with rfl | ⟨lead, stop, rfl⟩
  · exact first
  · have parts := isReferenceChar_of_not_isLabelChar (opens stop (by simp))
    rw [List.concat_eq_append, List.append_assoc, List.singleton_append, references_append parts]
    exact List.mem_append_right _ first

end Finding

theorem dropBlank_of_someBlank? {s r : List Char} (h : someBlank? s = some r) : dropBlank s = r := by
  cases s with
  | nil => cases h
  | cons c s =>
    rw [someBlank?] at h
    split at h
    · rename_i blank
      rw [dropBlank_cons, if_pos blank]
      exact Option.some.inj h
    · cases h

theorem point_of_afterGlobal? {s r : List Char} (h : afterGlobal? s = some r) : s.head? = some '.' := by
  unfold afterGlobal? at h
  split at h
  · rfl
  · rfl
  · cases h

theorem eq_of_afterType? {s r : List Char} (h : afterType? s = some r) : s = '.' :: 't' :: 'y' :: 'p' :: 'e' :: r := by
  unfold afterType? at h
  split at h
  · rw [Option.some.inj h]
  · cases h

theorem opensComment_of_classify {line : List Char} (h : classify line = .comment) :
    opensComment (dropBlank line) = true := by
  by_contra plain
  unfold classify at h
  split_ifs at h

theorem lineUsage_declared {hide : Bool} {owner : Option Name} {line : List Char} {name : Name}
    (point : (dropBlank line).head? = some '.') (h : declared? line = some name) :
    name ∈ (lineUsage hide owner line).direct := by
  have named : name ∈ (declared? line).toList := Option.mem_toList.mpr h
  obtain ⟨r, begins⟩ : ∃ r, dropBlank line = '.' :: r := List.head?_eq_some_iff.mp point
  unfold lineUsage
  cases kind : classify line with
  | blank =>
    rw [dropBlank_eq_nil_iff.mpr ((classify_eq_blank_iff line).mp kind)] at begins
    cases begins
  | comment =>
    have opens := opensComment_of_classify kind
    rw [begins] at opens
    cases opens
  | label => exact named
  | data => exact named
  | directive =>
    simp only
    split
    · exact named
    · exact List.mem_append_left _ named
  | instruction =>
    simp only
    split
    · exact List.mem_append_left _ named
    · exact named

theorem Refers.mem_direct {name : Name} {line : List Char} (h : Refers name line) (reference : IsReference name)
    (hide : Bool) (owner : Option Name) : name ∈ (lineUsage hide owner line).direct := by
  cases h with
  | instruction kind opcode stands =>
    simp only [lineUsage, kind, opcode, if_true]
    exact List.mem_append_right _ (mem_references reference stands)
  | @global r rest declares operand ends =>
    refine lineUsage_declared (point_of_afterGlobal? declares) (Option.or_eq_some_iff.mpr (.inl ?_))
    rw [global?, declares, Option.bind_some, dropBlank_of_someBlank? operand, name?_append reference ends]
    rfl
  | @function r rest mark declares operand comma marked =>
    have ends : ∀ c ∈ rest.head?, isLabelChar c = false := by
      intro c hc
      obtain ⟨rest', rfl⟩ := List.head?_eq_some_iff.mp hc
      rw [dropBlank_cons] at comma
      split at comma
      · rename_i blank
        exact shuns_isLabelChar c blank
      · obtain ⟨rfl, -⟩ := List.cons.inj comma
        decide
    have begins := eq_of_afterType? declares
    refine lineUsage_declared (by rw [begins]; rfl) (Option.or_eq_some_iff.mpr (.inr ⟨?_, ?_⟩))
    · rw [global?, begins]
      rfl
    · rw [function?, declares, Option.bind_some, dropBlank_of_someBlank? operand, name?_append reference ends]
      simp only [Option.bind_some, comma, marked, if_true]

theorem mem_usageFrom {hide : Bool} {owner : Option Name} {lines : List (List Char)} {line : List Char} {name : Name}
    (there : line ∈ lines) (uses : ∀ owner, name ∈ (lineUsage hide owner line).direct) :
    name ∈ (usageFrom hide owner lines).direct := by
  induction lines generalizing owner with
  | nil => cases there
  | cons first rest ih =>
    simp only [usageFrom, List.mem_append]
    rcases List.mem_cons.mp there with rfl | there
    · exact .inl (uses _)
    · exact .inr (ih there)

theorem mem_usedLabels_iff {name : Name} {lines : List (List Char)} (referred : ∃ line ∈ lines, Refers name line)
    (hide : Bool) : name ∈ usedLabels hide lines ↔ IsReference name := by
  obtain ⟨line, there, refers⟩ := referred
  refine ⟨isReference_of_mem_usedLabels, fun reference => subset_spread _ _ _ ?_⟩
  exact List.mem_eraseDups.mpr (mem_usageFrom there (refers.mem_direct reference hide))

/-- The line is the definition of a label that stands alone. -/
def defines (name : Name) (line : List Char) : Bool := classify line == .label && label? line == some name

theorem lasting_defines (name : Name) : Lasting (defines name) where
  relaid h oneLine := by rw [defines, defines, h.classify oneLine, h.label?]
  visible h blank := by
    rw [defines, (classify_eq_blank_iff _).mpr blank] at h
    cases h

theorem isKept_of_defines {name : Name} {f : Filters} (labels : f.labels = true) (t : Tables) (s : Standing)
    {line : List Char} (h : defines name line = true) :
    isKept f t s (classify line) line = t.used.contains name := by
  rw [defines, Bool.and_eq_true, beq_iff_eq, beq_iff_eq] at h
  simp [isKept, h.1, h.2, labels]

theorem ofText_of_fits {view : View} {f : Filters} {text : String}
    (fits : ∀ n ∈ view.maxLines, ((annotated view f (listingLines text.toList)).length : Int) ≤ n) :
    ofText view f text = ofText { view with maxLines := none } f text := by
  have whole : limited view (annotated view f (listingLines text.toList)) =
      annotated view f (listingLines text.toList) := by
    unfold limited
    split
    · rename_i n most
      exact if_neg (Int.not_lt.mpr (fits n most))
    · rfl
  unfold ofText
  split
  · rfl
  · simp only [ofLines, whole]
    rfl

theorem defines_ofText {view : View} {f : Filters} {text : String} (textual : f.binary = false)
    (labels : f.labels = true)
    (fits : ∀ n ∈ view.maxLines, ((annotated view f (listingLines text.toList)).length : Int) ≤ n) (name : Name) :
    ((ofText view f text).map Line.letters).filter (defines name) =
      if (usedLabels f.directives (listingLines text.toList)).contains name
      then ((listingLines text.toList).filter (defines name)).map (layout f) else [] := by
  cases several : isNotice (listingLines text.toList) with
  | true =>
    -- A notice is no label, and it is all there is.
    obtain ⟨line, alone, begins⟩ : ∃ line, listingLines text.toList = [line] ∧ line.head? = some '<' := by
      unfold isNotice at several
      split at several
      · rename_i line alone
        exact ⟨line, alone, beq_iff_eq.mp several⟩
      · cases several
    rw [alone] at several ⊢
    have other : defines name line = false := by
      obtain ⟨r, rfl⟩ := List.head?_eq_some_iff.mp begins
      have undefined : label? ('<' :: r) = none := rfl
      rw [defines, undefined]
      exact Bool.and_false _
    have shown : ((ofText view f text).map Line.letters).filter (defines name) = [] := by
      unfold ofText
      split
      · rfl
      · simp [ofLines, several, alone, plain, Line.letters, other]
    rw [shown, List.filter_cons_of_neg (by simp [other])]
    exact (ite_self _).symm
  | false =>
    rw [ofText_of_fits fits]
    exact filter_ofText rfl textual several (lasting_defines name) fun here line h => isKept_of_defines labels _ _ h

/-- Referenced labels survive, if they can be referred to. A label that an instruction has as a word, or that is
declared global or a function, is found used just if it has no at sign in it and no dollar sign at its beginning. Where
unused labels are hidden and the text is listed at all, all definitions of such a label are shown, in order; of any other
referenced label none is. -/
theorem referenced_label_kept_iff {name : Name} (label : IsLabelName name) :
    (∀ lines : List (List Char), (∃ line ∈ lines, Refers name line) → ∀ hide,
      name ∈ usedLabels hide lines ↔ '@' ∉ name ∧ name.head? ≠ some '$') ∧
    ∀ (view : View) (f : Filters) (text : String), f.binary = false → f.labels = true →
      (∀ n ∈ view.maxLines, ((annotated view f (listingLines text.toList)).length : Int) ≤ n) →
      (∃ line ∈ listingLines text.toList, Refers name line) →
        (IsLegible f text → ∃ listed, read view f text = .ok listed ∧
          (listed.map Line.letters).filter (defines name) =
            if '@' ∉ name ∧ name.head? ≠ some '$'
            then ((listingLines text.toList).filter (defines name)).map (layout f) else []) ∧
        (¬ IsLegible f text → ∃ e, read view f text = .error e) := by
  refine ⟨fun lines referred hide => (mem_usedLabels_iff referred hide).trans (isReference_iff label),
    fun view f text textual labels fits referred => ?_⟩
  have found := (mem_usedLabels_iff referred f.directives).trans (isReference_iff label)
  apply read_of
  rw [defines_ofText textual labels fits, List.contains_eq_mem]
  simp only [decide_eq_true_eq, found]

def jump : String := "\tjmp\t.L2\n.L2:\n\tret\n"

theorem referenced_label_kept_iff_jump :
    (∀ hide, ".L2".toList ∈ usedLabels hide (listingLines jump.toList)) ∧
      ∃ listed, read {} { labels := true } jump = .ok listed ∧
        (listed.map Line.letters).filter (defines ".L2".toList) = [".L2:".toList] := by
  have label : IsLabelName ".L2".toList := ⟨'.', "L2".toList, rfl, by decide, List.all_eq_true.mp (by decide)⟩
  have referred : ∃ line ∈ listingLines jump.toList, Refers ".L2".toList line :=
    ⟨"\tjmp\t.L2".toList, by decide, .instruction (by decide) (by decide) (standsIn_last "\tjmp".toList (by decide))⟩
  obtain ⟨found, shown⟩ := referenced_label_kept_iff label
  refine ⟨fun hide => (found _ referred hide).mpr (by decide), ?_⟩
  obtain ⟨listed, whole, kept⟩ := (shown {} { labels := true } jump rfl rfl (by simp) referred).1 (by decide)
  exact ⟨listed, whole, kept.trans (by decide)⟩

def dollarJump : String := "\tjmp\t$LN2@f\n$LN2@f:\n\tret\n"

/-- The label is defined and the target of a jump, and yet it is not found and goes with the unused ones. -/
theorem dollar_label_lost :
    IsLabelName "$LN2@f".toList ∧
      (∃ line ∈ listingLines dollarJump.toList, defines "$LN2@f".toList line = true) ∧
      (∃ line ∈ listingLines dollarJump.toList, Refers "$LN2@f".toList line) ∧
      (∀ hide, "$LN2@f".toList ∉ usedLabels hide (listingLines dollarJump.toList)) ∧
      ∃ listed, read {} { labels := true } dollarJump = .ok listed ∧
        (listed.map Line.letters).filter (defines "$LN2@f".toList) = [] := by
  have label : IsLabelName "$LN2@f".toList := ⟨'$', "LN2@f".toList, rfl, by decide, List.all_eq_true.mp (by decide)⟩
  have lost : ¬ IsReference "$LN2@f".toList := fun h => absurd ((isReference_iff label).mp h) (by decide)
  have unused (hide : Bool) : "$LN2@f".toList ∉ usedLabels hide (listingLines dollarJump.toList) :=
    fun there => lost (isReference_of_mem_usedLabels there)
  refine ⟨label, ⟨"$LN2@f:".toList, by decide, by decide⟩, ⟨"\tjmp\t$LN2@f".toList, by decide, ?_⟩, unused, ?_⟩
  · exact .instruction (by decide) (by decide) (standsIn_last "\tjmp".toList (by decide))
  · refine ⟨_, read_of_legible (by decide), ?_⟩
    rw [defines_ofText rfl rfl (by simp), if_neg (by simpa using unused false)]

end AsmScope.Listing
