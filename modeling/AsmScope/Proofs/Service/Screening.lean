import AsmScope.Proofs.Compile.OptionScreen
import AsmScope.Proofs.Service.Rejection

/-! Requests with an option that is held back. Whether the options of a payload are a shell line or a list, the token
is among the options of the request; so if the screen holds it back, neither the service nor a job on its own compiles
anything for the request. -/

namespace AsmScope

namespace Request

/-- The options of the payload, a shell line or a list, hold the token. -/
inductive Gives (payload : Fields) (token : String) : Prop where
  | line {s : String} {words : List String} (given : Fields.get? payload "options" = some (.string s))
      (split : Shell.wordsOf s = .ok words) (there : token ∈ words)
  | list {items : List Value} (given : Fields.get? payload "options" = some (.list items))
      (there : .string token ∈ items)

theorem optionsOf_of_ofPayload {payload : Fields} {r : Request} (taken : ofPayload payload = .ok r) :
    optionsOf (givenOr payload "options" (.string "")) = .ok r.options := by
  unfold ofPayload at taken
  cases listed : optionsOf (givenOr payload "options" (.string "")) with
  | error failure =>
    rw [listed] at taken
    cases taken
  | ok options =>
    simp only [listed, bind, Except.bind] at taken
    split at taken
    · obtain rfl := Except.ok.inj taken
      rfl
    · cases taken

theorem givenOr_of_isGiven {fields : Fields} {key : String} {fallback v : Value}
    (found : Fields.get? fields key = some v) (given : v.isGiven = true) : givenOr fields key fallback = v := by
  simp only [givenOr, found, given, if_true]

theorem mem_options_of_gives {payload : Fields} {token : String} {r : Request} (gives : Gives payload token)
    (filled : token ≠ "") (taken : ofPayload payload = .ok r) : token ∈ r.options := by
  have options := optionsOf_of_ofPayload taken
  cases gives with
  | @line s words given split there =>
    have line : givenOr payload "options" (.string "") = .string s := by
      rcases eq_or_ne s "" with rfl | written
      · simp only [givenOr, given, ite_self]
      · exact givenOr_of_isGiven given (by simpa [Value.isGiven] using written)
    simp only [line, optionsOf, split] at options
    rwa [← Except.ok.inj options]
  | @list items given there =>
    have list : (Value.list items).isGiven = true := by
      simpa [Value.isGiven] using List.ne_nil_of_mem there
    have item : (Value.string token).isGiven = true := by
      simpa [Value.isGiven] using filled
    rw [givenOr_of_isGiven given list, optionsOf] at options
    rw [← Except.ok.inj options]
    exact List.mem_map.mpr ⟨.string token, List.mem_filter.mpr ⟨there, item⟩, rfl⟩

end Request

theorem Workshop.wrong_of_invalid {w : Workshop} {r : Request} {failure : Failure}
    (invalid : w.validate r = .error failure) :
    w.screen.bad r.options ≠ [] ∨ (Source.check r.source).isSome = true := by
  unfold validate at invalid
  split at invalid
  · split at invalid
    · rename_i problem
      exact .inr (problem ▸ rfl)
    · cases invalid
  · rename_i bad
    exact .inl bad

theorem Workshop.exists_invalid_of_problem {w : Workshop} {r : Request} {problem : Failure}
    (found : Source.check r.source = some problem) : ∃ failure, w.validate r = .error failure := by
  by_cases good : w.screen.bad r.options = []
  · exact ⟨problem, validate_of_problem good found⟩
  · exact ⟨_, validate_of_bad good⟩

theorem Workshop.exists_refuses_of_invalid {w : Workshop} {r : Request} {failure : Failure}
    (invalid : w.validate r = .error failure) : ∃ failure, w.Refuses r failure := by
  cases found : w.registry.find? r.compiler with
  | none => exact ⟨_, .unknown found⟩
  | some entry =>
    obtain ⟨failure, -, refused⟩ := exists_refuses found (.inr (wrong_of_invalid invalid))
    exact ⟨failure, refused⟩

theorem Compile.job_of_invalid {w : Workshop} {r : Request} {failure : Failure}
    (invalid : w.validate r = .error failure) : ∃ failure, job w r = .ended (.error failure) := by
  unfold job
  cases found : w.registry.find? r.compiler with
  | none =>
    rw [Registry.lookup, found]
    exact ⟨.unknownCompiler r.compiler, rfl⟩
  | some entry =>
    have invalid' := (Workshop.validate_normalFor w entry r).trans invalid
    rw [Registry.lookup, found, Workshop.normalize_of_find? found]
    cases built : entry.builder with
    | none => exact ⟨.remoteOnly entry.settings.id, by simp only [Plan.ofExcept, bind, Plan.bind, built]; rfl⟩
    | some b => exact ⟨failure, by simp only [Plan.ofExcept, bind, Plan.bind, built, invalid']⟩

theorem Workshop.exists_refuses_of_bad {w : Workshop} {r : Request} (bad : w.screen.bad r.options ≠ []) :
    ∃ failure, w.Refuses r failure := exists_refuses_of_invalid (validate_of_bad bad)

theorem Compile.job_of_bad {w : Workshop} {r : Request} (bad : w.screen.bad r.options ≠ []) :
    ∃ failure, job w r = .ended (.error failure) := job_of_invalid (Workshop.validate_of_bad bad)

namespace Service
open OptionScreen

/-- Some words are forbidden whatever stands after them, on their own or passed on to another program. The default
screen reports an option that begins so if there is no line feed before its last character; and a request whose options
hold a reported one is refused in every state that a run can reach, and never compiled. -/
theorem open_words_refused_iff {mark word : String} (passed : mark ∈ passMarks) (listed : word ∈ openWords)
    (s : String) :
    (∀ options, mark ++ word ++ s ∈ (ofSettings {}).bad options ↔
      mark ++ word ++ s ∈ options ∧ '\n' ∉ s.toList.dropLast) ∧
    ('\n' ∉ s.toList.dropLast →
      ∀ (w : Workshop) (payload : Fields) (r : Request), w.screen = ofSettings {} →
        Request.Gives payload (mark ++ word ++ s) → Request.ofPayload payload = .ok r →
        (∃ failure, Compile.job w r = .ended (.error failure)) ∧
        ∀ events id, Distinct (events ++ [.submit id r]) →
          ∃ failure, w.Refuses r failure ∧ RefusedWith w events id r failure) := by
  have reported (options : List String) : mark ++ word ++ s ∈ (ofSettings {}).bad options ↔
      mark ++ word ++ s ∈ options ∧ '\n' ∉ s.toList.dropLast := by
    rw [bad, List.mem_filter, isBad_openWord_iff passed listed]
  refine ⟨reported, fun oneLine w payload r screened gives taken => ?_⟩
  have filled : mark ++ word ++ s ≠ "" := by
    have words : ∀ word ∈ openWords, word ≠ "" := by decide
    intro empty
    simp [words word listed] at empty
  have bad : w.screen.bad r.options ≠ [] := by
    rw [screened]
    exact List.ne_nil_of_mem ((reported r.options).mpr ⟨Request.mem_options_of_gives gives filled taken, oneLine⟩)
  refine ⟨Compile.job_of_bad bad, fun events id distinct => ?_⟩
  obtain ⟨failure, refused⟩ := Workshop.exists_refuses_of_bad bad
  exact ⟨failure, refused, refusedWith_of_refuses distinct refused⟩

theorem job?_first {w : Workshop} {id : Nat} {r r' : Request} (admitted : (start w).admissible r = .ok r')
    (valid : w.validate r' = .ok ()) (permit : 0 < w.config.limits.jobs) :
    (after w [.submit id r]).job? id = some r' := by
  have unstored : (start w).store.get r'.key = (none, (start w).store) := Store.get_of_find?_none rfl
  have alone : (start w).leader? r'.key = none := rfl
  have unlocked : ((start w).enter r'.key id).isLocked = false := by
    simp [isLocked, enter, start, Nat.ne_of_gt permit]
  have led : (start w).submit id r = ((start w).enter r'.key id).takePermit.addCall id (.running r'.key r') := by
    have valid' : (start w).workshop.validate r' = .ok () := valid
    simp only [submit, admitted, unstored, alone, valid', lead, unlocked, Bool.false_eq_true, if_false]
  rw [← List.nil_append [ServiceEvent.submit id r], after_concat, after_nil, step, led]
  simp [job?, call?, addCall, takePermit, enter, start]

def screenedWorkshop : Workshop := { smallWorkshop with screen := .ofSettings {} }

def payloadWith (options : Value) : Fields :=
  [("compiler", .string "cc"), ("source", .string "int x;"), ("options", options)]

/-- The arguments of a linker, read from a file. -/
theorem open_words_refused_linkerArguments :
    (∃ r, Request.ofPayload (payloadWith (.string "-O2 -Wl,@/tmp/args")) = .ok r ∧
      ∃ failure, screenedWorkshop.Refuses r failure ∧ RefusedWith screenedWorkshop [] 0 r failure) ∧
    "-Wl," ++ "@" ++ "/tmp/args" ∈ (ofSettings {}).bad ["-O2", "-Wl,@/tmp/args"] := by
  obtain ⟨reported, refused⟩ := @open_words_refused_iff "-Wl," "@" (by decide) (by decide) "/tmp/args"
  have taken : Request.ofPayload (payloadWith (.string "-O2 -Wl,@/tmp/args")) =
      .ok ⟨"cc", "int x;", ["-O2", "-Wl,@/tmp/args"], {}⟩ := by rfl
  have split : Shell.wordsOf "-O2 -Wl,@/tmp/args" = .ok ["-O2", "-Wl,@/tmp/args"] := by rfl
  have gives : Request.Gives (payloadWith (.string "-O2 -Wl,@/tmp/args")) ("-Wl," ++ "@" ++ "/tmp/args") :=
    .line rfl split (by decide)
  obtain ⟨-, always⟩ := refused (by decide) screenedWorkshop _ _ rfl gives taken
  exact ⟨⟨_, taken, always [] 0 (by decide)⟩, (reported _).mpr (by decide)⟩

/-- A response file whose name goes on in another line. -/
theorem response_file_compiled :
    (ofSettings {}).bad ["@a\nb"] = [] ∧
    ∃ r, Request.Gives (payloadWith (.list [.string "@a\nb"])) "@a\nb" ∧
      Request.ofPayload (payloadWith (.list [.string "@a\nb"])) = .ok r ∧
      (after screenedWorkshop [.submit 0 r]).job? 0 = some r := by
  have passes : ¬ (ofSettings {}).isBad "@a\nb" = true := by
    rw [show "@a\nb" = "" ++ "@" ++ "a\nb" from rfl, isBad_openWord_iff (by decide) (by decide)]
    decide
  have good : (ofSettings {}).bad ["@a\nb"] = [] := List.filter_cons_of_neg passes
  have valid : screenedWorkshop.validate ⟨"cc", "int x;", ["@a\nb"], {}⟩ = .ok () := by
    simp only [Workshop.validate, screenedWorkshop, good]
    rfl
  have admitted : (start screenedWorkshop).admissible ⟨"cc", "int x;", ["@a\nb"], {}⟩ =
      .ok ⟨"cc", "int x;", ["@a\nb"], {}⟩ := by rfl
  refine ⟨good, ⟨"cc", "int x;", ["@a\nb"], {}⟩, .list rfl (List.mem_singleton_self _), by rfl, ?_⟩
  exact job?_first admitted valid (by decide)

end Service
end AsmScope
