import AsmScope.Compile.Screen
import AsmScope.Proofs.Pattern.Language

/-! The options that the default screen holds back. The forbidden ones are a table of words and of what may stand after
each word; they can be passed on to another program, and some can be given a value. The pattern of the settings reads
this table, but its mark for the end is also seen before a final line feed, and a point takes no line feed. So a bad
option has no line feed, except at its end. -/

namespace AsmScope.OptionScreen
open Pattern CharClass

inductive Tail where
  | nothing
  | anything
  | something
  deriving DecidableEq, Repr

namespace Tail

def Allows : Tail → List Char → Prop
  | nothing, s => s = []
  | anything, s => '\n' ∉ s
  | something, s => s ≠ [] ∧ '\n' ∉ s

def pattern : Tail → Pattern
  | nothing => .empty
  | anything => .seq (.star (.char point)) .empty
  | something => .seq (.seq (.char point) (.star (.char point))) .empty

theorem hasNoMark_pattern (tail : Tail) : tail.pattern.hasNoMark = true := by cases tail <;> rfl

theorem takes_star_point_iff {s : List Char} : (Pattern.star (.char point)).Takes s ↔ '\n' ∉ s := by
  rw [takes_star_char_iff]
  constructor
  · intro all feed
    exact has_point.mp (all _ feed) rfl
  · rintro oneLine c there
    exact has_point.mpr fun feed => oneLine (feed ▸ there)

theorem takes_pattern_iff {tail : Tail} {s : List Char} : tail.pattern.Takes s ↔ tail.Allows s := by
  cases tail with
  | nothing => exact Iff.rfl
  | anything => exact takes_seq_empty_iff.trans takes_star_point_iff
  | something =>
    refine takes_seq_empty_iff.trans ⟨?_, ?_⟩
    · rintro ⟨_, v, rfl, ⟨c, rfl, accepted⟩, rest⟩
      have first : '\n' ≠ c := (has_point.mp accepted).symm
      exact ⟨List.cons_ne_nil c v, List.not_mem_cons_of_ne_of_not_mem first (takes_star_point_iff.mp rest)⟩
    · rintro ⟨filled, oneLine⟩
      obtain ⟨c, v, rfl⟩ := List.exists_cons_of_ne_nil filled
      have first : c ≠ '\n' := (List.ne_of_not_mem_cons oneLine).symm
      exact ⟨[c], v, rfl, ⟨c, rfl, has_point.mpr first⟩,
        takes_star_point_iff.mpr (List.not_mem_of_not_mem_cons oneLine)⟩

end Tail

structure Ban where
  word : List Char
  tail : Tail
  deriving DecidableEq, Repr

def ban (word : String) (tail : Tail) : Ban := ⟨word.toList, tail⟩

def valued : List Ban :=
  [ban "-wrapper" .nothing, ban "-fplugin" .anything, ban "-specs" .nothing, ban "-load" .nothing,
    ban "-plugin" .nothing, ban "@" .anything, ban "-I" .nothing, ban "-i" .nothing, ban "-isystem" .nothing,
    ban "-o" .nothing, ban "-B" .nothing]

def unvalued : List Ban :=
  [ban "--" .nothing, ban "-I/" .anything, ban "-isystem/" .anything, ban "-o" .something, ban "-B" .something]

/-- The beginnings by which an option is passed on to another program, and that of an option which is not. -/
def passMarks : List String := ["", "-Wa,", "-Wl,", "-Wp,"]

inductive IsForbidden : List Char → Prop where
  | word {b : Ban} {s : List Char} (banned : b ∈ valued ++ unvalued) (allowed : b.tail.Allows s) :
      IsForbidden (b.word ++ s)
  | value {b : Ban} {s v : List Char} (banned : b ∈ valued) (allowed : b.tail.Allows s) (oneLine : '\n' ∉ v) :
      IsForbidden (b.word ++ s ++ '=' :: v)

theorem Tail.Allows.not_mem {tail : Tail} {s : List Char} (allowed : tail.Allows s) : '\n' ∉ s := by
  cases tail with
  | nothing =>
    obtain rfl := allowed
    exact List.not_mem_nil
  | anything => exact allowed
  | something => exact allowed.2

theorem not_mem_of_isForbidden {q : List Char} (forbidden : IsForbidden q) : '\n' ∉ q := by
  have words : ∀ b ∈ valued ++ unvalued, '\n' ∉ b.word := by decide
  cases forbidden with
  | word banned allowed =>
    simp only [List.mem_append, words _ banned, allowed.not_mem, or_self, not_false_eq_true]
  | value banned allowed oneLine =>
    have word := words _ (List.mem_append_left _ banned)
    simp only [List.mem_append, List.mem_cons, word, allowed.not_mem, oneLine, or_self]
    decide

section Reading
variable {s : List Char}

def Ban.pattern (b : Ban) : Pattern := spelled b.word b.tail.pattern

theorem Ban.hasNoMark_pattern (b : Ban) : b.pattern.hasNoMark = true := hasNoMark_spelled b.tail.hasNoMark_pattern

theorem Ban.takes_pattern_iff {b : Ban} : b.pattern.Takes s ↔ ∃ v, s = b.word ++ v ∧ b.tail.Allows v := by
  simp only [Ban.pattern, takes_spelled_iff, Tail.takes_pattern_iff]

def oneBan : List Ban → Pattern
  | [] => .never
  | b :: rest => oneOf b.pattern (rest.map Ban.pattern)

theorem takes_oneBan_iff {bans : List Ban} : (oneBan bans).Takes s ↔ ∃ b ∈ bans, b.pattern.Takes s := by
  cases bans with
  | nil => simp [oneBan, Takes]
  | cons b rest => simp only [oneBan, takes_oneOf_iff, ← List.map_cons, List.mem_map, exists_exists_and_eq_and]

theorem hasNoMark_oneBan (bans : List Ban) : (oneBan bans).hasNoMark = true := by
  cases bans with
  | nil => rfl
  | cons b rest =>
    refine hasNoMark_oneOf fun q there => ?_
    rw [← List.map_cons] at there
    obtain ⟨b, -, rfl⟩ := List.mem_map.mp there
    exact b.hasNoMark_pattern

def value : Pattern := .seq (.alt (spelled ['='] Tail.anything.pattern) .empty) .empty

theorem takes_value_iff : value.Takes s ↔ s = [] ∨ ∃ v, s = '=' :: v ∧ '\n' ∉ v := by
  rw [value, takes_seq_empty_iff, Takes, takes_spelled_iff, or_comm]
  simp only [Tail.takes_pattern_iff]
  exact Iff.rfl

def passing : Pattern :=
  .alt (spelled ['-', 'W'] (.seq (.char (.any [single 'a', single 'l', single 'p'])) (spelled [','] .empty))) .empty

theorem takes_passing_iff : passing.Takes s ↔ ∃ mark ∈ passMarks, s = mark.toList := by
  have letters (c : Char) : (CharClass.any [single 'a', single 'l', single 'p']).has c = true ↔
      c = 'a' ∨ c = 'l' ∨ c = 'p' := by
    simp only [has, hasAny, Bool.or_eq_true, has_single, Bool.false_eq_true, or_false]
  constructor
  · rintro (taken | rfl)
    · obtain ⟨_, rfl, _, _, rfl, ⟨c, rfl, accepted⟩, rest⟩ := takes_spelled_iff.mp taken
      obtain ⟨_, rfl, rfl⟩ := takes_spelled_iff.mp rest
      rcases (letters c).mp accepted with rfl | rfl | rfl
      · exact ⟨"-Wa,", by decide, rfl⟩
      · exact ⟨"-Wl,", by decide, rfl⟩
      · exact ⟨"-Wp,", by decide, rfl⟩
    · exact ⟨"", by decide, rfl⟩
  · have passed {c : Char} (accepted : c = 'a' ∨ c = 'l' ∨ c = 'p') : passing.Takes ['-', 'W', c, ','] := by
      refine .inl (takes_spelled_iff.mpr ⟨[c, ','], rfl, [c], [','], rfl, ⟨c, rfl, (letters c).mpr accepted⟩, ?_⟩)
      exact takes_spelled_iff.mpr ⟨[], rfl, rfl⟩
    rintro ⟨mark, listed, rfl⟩
    simp only [passMarks, List.mem_cons, List.not_mem_nil, or_false] at listed
    rcases listed with rfl | rfl | rfl | rfl
    · exact .inr rfl
    · exact passed (.inl rfl)
    · exact passed (.inr (.inl rfl))
    · exact passed (.inr (.inr rfl))

def body : Pattern := oneOf (.seq (oneBan valued) value) (unvalued.map Ban.pattern)

theorem takes_body_iff : body.Takes s ↔ IsForbidden s := by
  simp only [body, takes_oneOf_iff, List.exists_mem_cons_iff, List.mem_map, exists_exists_and_eq_and]
  constructor
  · rintro (⟨u, v, rfl, taken, rest⟩ | ⟨b, listed, taken⟩)
    · obtain ⟨b, listed, taken⟩ := takes_oneBan_iff.mp taken
      obtain ⟨u, rfl, allowed⟩ := Ban.takes_pattern_iff.mp taken
      rcases takes_value_iff.mp rest with rfl | ⟨v, rfl, oneLine⟩
      · rw [List.append_nil]
        exact .word (List.mem_append_left _ listed) allowed
      · exact .value listed allowed oneLine
    · obtain ⟨v, rfl, allowed⟩ := Ban.takes_pattern_iff.mp taken
      exact .word (List.mem_append_right _ listed) allowed
  · intro forbidden
    cases forbidden with
    | @word b v banned allowed =>
      have taken : b.pattern.Takes (b.word ++ v) := Ban.takes_pattern_iff.mpr ⟨v, rfl, allowed⟩
      rcases List.mem_append.mp banned with listed | listed
      · refine .inl ⟨_, [], (List.append_nil _).symm, takes_oneBan_iff.mpr ⟨b, listed, taken⟩, ?_⟩
        exact takes_value_iff.mpr (.inl rfl)
      · exact .inr ⟨b, listed, taken⟩
    | @value b u v banned allowed oneLine =>
      have taken : b.pattern.Takes (b.word ++ u) := Ban.takes_pattern_iff.mpr ⟨u, rfl, allowed⟩
      refine .inl ⟨_, _, rfl, takes_oneBan_iff.mpr ⟨b, banned, taken⟩, ?_⟩
      exact takes_value_iff.mpr (.inr ⟨v, rfl, oneLine⟩)

theorem hasNoMark_body : body.hasNoMark = true := by
  refine hasNoMark_oneOf (List.forall_mem_cons.mpr ⟨?_, fun q there => ?_⟩)
  · exact Bool.and_eq_true_iff.mpr ⟨hasNoMark_oneBan valued, rfl⟩
  · obtain ⟨b, -, rfl⟩ := List.mem_map.mp there
    exact b.hasNoMark_pattern

/-- The settings' pattern, as it is read, is the table between the marks for the beginning and the end. -/
theorem read_forbiddenOptions :
    Pattern.read forbiddenOptions = .seq .opening (.seq passing (.seq body (.seq .closing .empty))) := by cbv

theorem read_allowedOptions : Pattern.read ".*" = .seq (.star (.char point)) .empty := by cbv

end Reading

/-- An option is bad just if it is forbidden, whether passed on or not, or is so with a line feed after it. -/
theorem isBad_default_iff {option : String} :
    (ofSettings {}).isBad option = true ↔
      ∃ mark ∈ passMarks, ∃ q, IsForbidden q ∧
        (option.toList = mark.toList ++ q ∨ option.toList = mark.toList ++ q ++ ['\n']) := by
  have allowed : (Pattern.read ".*").matchesStart option.toList = true := by
    rw [read_allowedOptions]
    exact matchesStart_iff.mpr ⟨_, .seq .done .empty⟩
  have screened : (ofSettings {}).isBad option = (Pattern.read forbiddenOptions).matchesStart option.toList := by
    simp only [isBad, ofSettings, allowed, Bool.not_true, Bool.false_or]
  rw [screened, read_forbiddenOptions, matchesStart_anchored_iff rfl hasNoMark_body]
  simp only [takes_passing_iff, takes_body_iff]
  constructor
  · rintro ⟨_, q, ⟨mark, listed, rfl⟩, forbidden, ends⟩
    exact ⟨mark, listed, q, forbidden, ends⟩
  · rintro ⟨mark, listed, q, forbidden, ends⟩
    exact ⟨_, q, ⟨mark, listed, rfl⟩, forbidden, ends⟩

theorem not_mem_dropLast_of_isBad {option : String} (bad : (ofSettings {}).isBad option = true) :
    '\n' ∉ option.toList.dropLast := by
  have marks : ∀ mark ∈ passMarks, '\n' ∉ mark.toList := by decide
  obtain ⟨mark, listed, q, forbidden, ends⟩ := isBad_default_iff.mp bad
  have oneLine : '\n' ∉ mark.toList ++ q := by
    simp only [List.mem_append, marks mark listed, not_mem_of_isForbidden forbidden, or_self, not_false_eq_true]
  rcases ends with whole | whole
  · rw [whole]
    exact fun feed => oneLine (List.dropLast_subset _ feed)
  · rwa [whole, List.dropLast_concat]

def openWords : List String := ["@", "-fplugin", "-I/", "-isystem/", "-o", "-B"]

theorem isForbidden_openWord {word : String} (listed : word ∈ openWords) {v : List Char} (oneLine : '\n' ∉ v) :
    IsForbidden (word.toList ++ v) := by
  have bans : ∀ word ∈ openWords, ban word .anything ∈ valued ++ unvalued ∨
      ban word .nothing ∈ valued ++ unvalued ∧ ban word .something ∈ valued ++ unvalued := by decide
  rcases bans word listed with banned | ⟨alone, followed⟩
  · exact .word banned oneLine
  · rcases eq_or_ne v [] with rfl | filled
    · exact .word alone rfl
    · exact .word followed ⟨filled, oneLine⟩

theorem exists_line {s : List Char} (early : '\n' ∉ s.dropLast) : ∃ v, '\n' ∉ v ∧ (s = v ∨ s = v ++ ['\n']) := by
  rcases List.eq_nil_or_concat s with rfl | ⟨v, c, rfl⟩
  · exact ⟨[], early, .inl rfl⟩
  · rw [List.concat_eq_append, List.dropLast_concat] at early
    rcases eq_or_ne c '\n' with rfl | other
    · exact ⟨v, early, .inr List.concat_eq_append⟩
    · refine ⟨v ++ [c], ?_, .inl List.concat_eq_append⟩
      simp [early, other.symm]

theorem isBad_openWord_iff {mark word : String} (passed : mark ∈ passMarks) (listed : word ∈ openWords) (s : String) :
    (ofSettings {}).isBad (mark ++ word ++ s) = true ↔ '\n' ∉ s.toList.dropLast := by
  constructor
  · intro bad feed
    have filled : s.toList ≠ [] := by
      intro empty
      simp [empty] at feed
    refine not_mem_dropLast_of_isBad bad ?_
    rw [String.toList_append, List.dropLast_append_of_ne_nil filled]
    exact List.mem_append_right _ feed
  · intro early
    obtain ⟨v, inside, ends⟩ := exists_line early
    refine isBad_default_iff.mpr ⟨mark, passed, _, isForbidden_openWord listed inside, ?_⟩
    simp only [String.toList_append, List.append_assoc]
    exact ends.imp (fun whole => by rw [whole]) fun whole => by rw [whole]

end AsmScope.OptionScreen
