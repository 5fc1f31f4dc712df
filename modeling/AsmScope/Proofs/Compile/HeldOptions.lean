import AsmScope.Proofs.Compile.OptionScreen

/-! The default screen, told by the beginnings of words. Some words are held back alone or with a value, some whatever
stands after them, some with something after them; each can be passed on to another program. On options of one line the
screen holds back just these, and it takes no notice of a line feed at the end. -/

namespace AsmScope.OptionScreen

def valueWords : List String := ["-wrapper", "-specs", "-load", "-plugin", "-I", "-i", "-isystem", "-o", "-B"]

def startWords : List String := ["-fplugin", "@", "-I/", "-isystem/"]

def joinWords : List String := ["-o", "-B"]

/-- What is held back, whether it is passed on or not. -/
def IsRestricted (q : List Char) : Prop :=
  q = "--".toList ∨ (∃ word ∈ valueWords, q = word.toList ∨ word.toList ++ ['='] <+: q) ∨
    (∃ word ∈ startWords, word.toList <+: q) ∨ ∃ word ∈ joinWords, word.toList <+: q ∧ q ≠ word.toList

def IsHeldBack (t : List Char) : Prop := ∃ mark ∈ passMarks, ∃ q, t = mark.toList ++ q ∧ IsRestricted q

/-- One line that is held back, perhaps with a line feed after it. -/
def IsReported (t : List Char) : Prop := ∃ line, '\n' ∉ line ∧ IsHeldBack line ∧ (t = line ∨ t = line ++ ['\n'])

section Reports
variable {q t : List Char}

theorem isHeldBack_iff_drop : IsHeldBack t ↔
    ∃ mark ∈ passMarks, mark.toList <+: t ∧ IsRestricted (t.drop mark.toList.length) := by
  refine exists_congr fun mark => and_congr_right fun _ => ?_
  constructor
  · rintro ⟨q, rfl, restricted⟩
    exact ⟨List.prefix_append .., by rwa [List.drop_left]⟩
  · rintro ⟨⟨q, rfl⟩, restricted⟩
    exact ⟨q, rfl, by rwa [List.drop_left] at restricted⟩

theorem isReported_iff_dropLast : IsReported t ↔ '\n' ∉ t ∧ IsHeldBack t ∨
    t.getLast? = some '\n' ∧ '\n' ∉ t.dropLast ∧ IsHeldBack t.dropLast := by
  constructor
  · rintro ⟨line, oneLine, held, rfl | rfl⟩
    · exact .inl ⟨oneLine, held⟩
    · exact .inr ⟨List.getLast?_concat, by rwa [List.dropLast_concat], by rwa [List.dropLast_concat]⟩
  · rintro (⟨oneLine, held⟩ | ⟨ended, oneLine, held⟩)
    · exact ⟨t, oneLine, held, .inl rfl⟩
    · exact ⟨t.dropLast, oneLine, held, .inr (List.dropLast_append_getLast? _ ended).symm⟩

instance (q : List Char) : Decidable (IsRestricted q) := inferInstanceAs (Decidable (_ ∨ _ ∨ _ ∨ _))

instance (t : List Char) : Decidable (IsHeldBack t) := decidable_of_iff _ isHeldBack_iff_drop.symm

instance (t : List Char) : Decidable (IsReported t) := decidable_of_iff _ isReported_iff_dropLast.symm

theorem isReported_iff_isHeldBack (oneLine : '\n' ∉ t) : IsReported t ↔ IsHeldBack t := by
  have unended : t.getLast? ≠ some '\n' := fun ended => oneLine (List.mem_of_getLast? ended)
  simp only [isReported_iff_dropLast, oneLine, unended, not_false_eq_true, true_and, false_and, or_false]

theorem isRestricted_of_isForbidden (forbidden : IsForbidden q) : IsRestricted q := by
  have alone : ∀ b ∈ valued ++ unvalued, b.tail = .nothing →
      b.word = "--".toList ∨ ∃ word ∈ valueWords, b.word = word.toList := by decide
  have started : ∀ b ∈ valued ++ unvalued, b.tail = .anything → ∃ word ∈ startWords, b.word = word.toList := by decide
  have joined : ∀ b ∈ valued ++ unvalued, b.tail = .something → ∃ word ∈ joinWords, b.word = word.toList := by decide
  have valuedAlone : ∀ b ∈ valued, b.tail = .nothing → ∃ word ∈ valueWords, b.word = word.toList := by decide
  have valuedTail : ∀ b ∈ valued, b.tail ≠ .something := by decide
  -- The tail of a ban tells which list its word is in.
  cases forbidden with
  | @word b s banned allowed =>
    cases tail : b.tail with
    | nothing =>
      obtain rfl : s = [] := by rwa [tail] at allowed
      rw [List.append_nil]
      rcases alone b banned tail with same | ⟨word, listed, same⟩
      · exact .inl same
      · exact .inr (.inl ⟨word, listed, .inl same⟩)
    | anything =>
      obtain ⟨word, listed, same⟩ := started b banned tail
      exact .inr (.inr (.inl ⟨word, listed, same ▸ List.prefix_append ..⟩))
    | something =>
      obtain ⟨word, listed, same⟩ := joined b banned tail
      have filled : s ≠ [] := by
        rw [tail] at allowed
        exact allowed.1
      refine .inr (.inr (.inr ⟨word, listed, same ▸ List.prefix_append .., ?_⟩))
      rw [same]
      exact fun whole => filled (List.append_right_eq_self.mp whole)
  | @value b s v banned allowed oneLine =>
    cases tail : b.tail with
    | nothing =>
      obtain rfl : s = [] := by rwa [tail] at allowed
      obtain ⟨word, listed, same⟩ := valuedAlone b banned tail
      exact .inr (.inl ⟨word, listed, .inr ⟨v, by simp [same]⟩⟩)
    | anything =>
      obtain ⟨word, listed, same⟩ := started b (List.mem_append_left _ banned) tail
      exact .inr (.inr (.inl ⟨word, listed, s ++ '=' :: v, by simp [same]⟩))
    | something => exact absurd tail (valuedTail b banned)

theorem isForbidden_of_isRestricted (oneLine : '\n' ∉ q) (restricted : IsRestricted q) : IsForbidden q := by
  have dashes : ban "--" .nothing ∈ valued ++ unvalued := by decide
  have alone : ∀ word ∈ valueWords, ban word .nothing ∈ valued := by decide
  have started : ∀ word ∈ startWords, word ∈ openWords := by decide
  have joined : ∀ word ∈ joinWords, ban word .something ∈ valued ++ unvalued := by decide
  rcases restricted with rfl | ⟨word, listed, rfl | ⟨v, rfl⟩⟩ | ⟨word, listed, s, rfl⟩ | ⟨word, listed, ⟨s, rfl⟩, more⟩
  · exact .word dashes rfl
  · rw [← List.append_nil word.toList]
    exact .word (List.mem_append_left _ (alone word listed)) rfl
  · have value : '\n' ∉ v := fun feed => oneLine (List.mem_append_right _ feed)
    have given := IsForbidden.value (alone word listed) (s := []) rfl value
    rw [List.append_nil] at given
    rwa [List.append_assoc]
  · exact isForbidden_openWord (started word listed) fun feed => oneLine (List.mem_append_right _ feed)
  · have filled : s ≠ [] := by
      rintro rfl
      exact more (List.append_nil _)
    exact .word (joined word listed) ⟨filled, fun feed => oneLine (List.mem_append_right _ feed)⟩

end Reports

theorem isBad_default_iff_isReported {option : String} :
    (ofSettings {}).isBad option = true ↔ IsReported option.toList := by
  have marks : ∀ mark ∈ passMarks, '\n' ∉ mark.toList := by decide
  rw [isBad_default_iff]
  constructor
  · rintro ⟨mark, listed, q, forbidden, ends⟩
    have oneLine : '\n' ∉ mark.toList ++ q := by
      simp only [List.mem_append, marks mark listed, not_mem_of_isForbidden forbidden, or_self, not_false_eq_true]
    exact ⟨_, oneLine, ⟨mark, listed, q, rfl, isRestricted_of_isForbidden forbidden⟩, ends⟩
  · rintro ⟨_, oneLine, ⟨mark, listed, q, rfl, restricted⟩, ends⟩
    have inside : '\n' ∉ q := fun feed => oneLine (List.mem_append_right _ feed)
    exact ⟨mark, listed, q, isForbidden_of_isRestricted inside restricted, ends⟩

/-- The default screen reports the options that are held back, in their order. On options of one line these are just
those that begin with a restricted word; of others, those that would be held back without a line feed at their end. -/
theorem bad_default_eq_filter (options : List String) :
    (∀ t ∈ options, '\n' ∉ t.toList → (t ∈ (ofSettings {}).bad options ↔ IsHeldBack t.toList)) ∧
    ((∀ t ∈ options, '\n' ∉ t.toList) → (ofSettings {}).bad options = options.filter fun t => IsHeldBack t.toList) ∧
    (ofSettings {}).bad options = options.filter fun t => IsReported t.toList := by
  have reported : (ofSettings {}).bad options = options.filter fun t => IsReported t.toList :=
    List.filter_congr fun t _ => by
      rw [Bool.eq_iff_iff, decide_eq_true_eq, isBad_default_iff_isReported]
  refine ⟨fun t there oneLine => ?_, fun oneLine => ?_, reported⟩
  · rw [reported, List.mem_filter, decide_eq_true_eq, isReported_iff_isHeldBack oneLine]
    exact and_iff_right there
  · rw [reported]
    exact List.filter_congr fun t there => by simp only [isReported_iff_isHeldBack (oneLine t there)]

/-- Neighbours of the restricted words on both sides. -/
theorem bad_default_eq_filter_neighbours :
    (∀ t ∈ ["-O2", "-include", "-Iinc", "-I/x", "-Wl,-O1", "-Wl,-o=x", "--", "--help"], '\n' ∉ t.toList) ∧
    (ofSettings {}).bad ["-O2", "-include", "-Iinc", "-I/x", "-Wl,-O1", "-Wl,-o=x", "--", "--help"] =
      ["-I/x", "-Wl,-o=x", "--"] := by
  have oneLine : ∀ t ∈ ["-O2", "-include", "-Iinc", "-I/x", "-Wl,-O1", "-Wl,-o=x", "--", "--help"], '\n' ∉ t.toList := by
    decide
  exact ⟨oneLine, ((bad_default_eq_filter _).2.1 oneLine).trans (by decide)⟩

end AsmScope.OptionScreen
