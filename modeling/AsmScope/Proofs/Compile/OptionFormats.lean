import AsmScope.Compile.Request
import AsmScope.Proofs.Shell.Words

/-! The two forms in which options are given. A list of options and the line that quotes them are the same request:
the line is split into the words of the list, and empty options are left out of both. -/

namespace AsmScope

theorem Filters.ofValue_toValue (f : Filters) : Filters.ofValue f.toValue = .valid f := rfl

namespace Request

theorem optionsOf_strings (options : List String) :
    optionsOf (.strings options) = .ok (options.filter fun option => !option.isEmpty) := by
  simp [optionsOf, Value.strings, List.filter_map, Function.comp_def, Value.isGiven, Value.display]

theorem optionsOf_quotedLine (options : List String) :
    optionsOf (.string (Shell.quotedLine options)) = .ok (options.filter fun option => !option.isEmpty) := by
  rw [optionsOf, Shell.wordsOf_quotedLine]

theorem givenOr_insert_of_ne {key other : String} (apart : other ≠ key) (fields : Fields) (value fallback : Value) :
    givenOr (Fields.insert fields key value) other fallback = givenOr fields other fallback := by
  rw [givenOr, givenOr, Fields.get?_insert, if_neg apart]

theorem shown_insert_of_ne {key other : String} (apart : other ≠ key) (fields : Fields) (value : Value) :
    shown (Fields.insert fields key value) other = shown fields other := by
  rw [shown, shown, Fields.get?_insert, if_neg apart]

/-- An empty list and an empty line are taken for options that are missing, and hold what these hold. -/
theorem optionsOf_givenOr_insert {given : Value} {options : List String} (read : optionsOf given = .ok options)
    (ungiven : given.isGiven = false → options = []) (payload : Fields) :
    optionsOf (givenOr (Fields.insert payload "options" given) "options" (.string "")) = .ok options := by
  simp only [givenOr, Fields.get?_insert, if_true]
  cases there : given.isGiven with
  | true => exact read
  | false => rw [ungiven there]; rfl

theorem ofPayload_insert_options {given : Value} {options : List String} (read : optionsOf given = .ok options)
    (ungiven : given.isGiven = false → options = []) (payload : Fields) :
    ofPayload (Fields.insert payload "options" given) =
      match Filters.ofValue (givenOr payload "filters" (.table [])) with
      | .valid filters => .ok ⟨shown payload "compiler", shown payload "source", options, filters⟩
      | .invalid problems => .error (.malformed problems) := by
  have others : "filters" ≠ "options" ∧ "compiler" ≠ "options" ∧ "source" ≠ "options" := by decide
  rw [ofPayload, optionsOf_givenOr_insert read ungiven, givenOr_insert_of_ne others.1, shown_insert_of_ne others.2.1,
    shown_insert_of_ne others.2.2]
  rfl

theorem eq_nil_of_ungiven_line {s : String} {options : List String} (read : optionsOf (.string s) = .ok options)
    (ungiven : (Value.string s).isGiven = false) : options = [] := by
  obtain rfl : s = "" := by simpa [Value.isGiven] using ungiven
  exact (Except.ok.inj read).symm

theorem eq_nil_of_ungiven_list {options : List String} (ungiven : (Value.strings options).isGiven = false) :
    options = [] := by
  simpa [Value.strings, Value.isGiven] using ungiven

/-- A payload whose filters can be read is read with the options it is given, whether these are a list or the line
that quotes them. Both forms are one request, so they have one key. -/
theorem list_and_line_alike (payload : Fields) (filters : Filters) (options : List String)
    (readable : Filters.ofValue (givenOr payload "filters" (.table [])) = .valid filters)
    (filled : ∀ option ∈ options, option ≠ "") :
    ∃ listed lined,
      ofPayload (Fields.insert payload "options" (.strings options)) = .ok listed ∧
      ofPayload (Fields.insert payload "options" (.string (Shell.quotedLine options))) = .ok lined ∧
      listed = ⟨shown payload "compiler", shown payload "source", options, filters⟩ ∧
      lined = listed ∧ lined.key = listed.key := by
  have whole : (options.filter fun option => !option.isEmpty) = options :=
    List.filter_eq_self.mpr fun option there => by simpa using filled option there
  have list := optionsOf_strings options
  have line := optionsOf_quotedLine options
  rw [whole] at list line
  refine ⟨_, _, ?_, ?_, rfl, rfl, rfl⟩
  · rw [ofPayload_insert_options list eq_nil_of_ungiven_list, readable]
  · rw [ofPayload_insert_options line (eq_nil_of_ungiven_line line), readable]

def oddOptions : List String := ["-DS=\"it's\"", "\\\n -x", "'"]

def payloadWithoutOptions : Fields :=
  [("compiler", .string "cc"), ("source", .null), ("filters", Filters.toValue { intel := true })]

theorem list_and_line_alike_oddOptions :
    Filters.ofValue (givenOr payloadWithoutOptions "filters" (.table [])) = .valid { intel := true } ∧
    (∀ option ∈ oddOptions, option ≠ "") ∧
    ∃ listed lined,
      ofPayload (payloadWithoutOptions ++ [("options", .strings oddOptions)]) = .ok listed ∧
      ofPayload (payloadWithoutOptions ++
        [("options", .string "'-DS=\"it'\"'\"'s\"' '\\\n -x' ''\"'\"''")]) = .ok lined ∧
      listed = ⟨"cc", "None", oddOptions, { intel := true }⟩ ∧ lined = listed ∧ lined.key = listed.key := by
  have filled : ∀ option ∈ oddOptions, option ≠ "" := by decide
  have readable : Filters.ofValue (givenOr payloadWithoutOptions "filters" (.table [])) = .valid { intel := true } :=
    Filters.ofValue_toValue { intel := true }
  exact ⟨readable, filled, list_and_line_alike payloadWithoutOptions { intel := true } oddOptions readable filled⟩

end Request
end AsmScope
