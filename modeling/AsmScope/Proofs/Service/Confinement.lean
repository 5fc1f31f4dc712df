import AsmScope.Proofs.Compile.IncludeScreen
import AsmScope.Proofs.Service.Screening

/-! Sources that include files outside the directory of the job. The message of the screen names the lines that it
reports, and a request whose source has such a line is refused by the service and by a job on its own. The screen looks
for a blank in front of the quote or bracket, so an include written without one goes through to the compiler. -/

namespace AsmScope.Service
open Source

theorem refused_of_reports {source : String} {n : Nat} (reported : Reports source n) (w : Workshop) (r : Request)
    (given : r.source = source) :
    (∃ failure, Compile.job w r = .ended (.error failure)) ∧
    ∀ events id, Distinct (events ++ [.submit id r]) →
      ∃ failure, w.Refuses r failure ∧ RefusedWith w events id r failure := by
  obtain ⟨problem, found, -⟩ := reported
  obtain ⟨failure, invalid⟩ := Workshop.exists_invalid_of_problem (w := w) (given ▸ found)
  refine ⟨Compile.job_of_invalid invalid, fun events id distinct => ?_⟩
  obtain ⟨failure, refused⟩ := Workshop.exists_refuses_of_invalid invalid
  exact ⟨failure, refused, refusedWith_of_refuses distinct refused⟩

/-- An include that leads out of the directory is reported just if there is a blank in front of its quote or bracket;
nothing else is reported, and what is reported is refused. -/
theorem escaping_include_reported_iff (source : String) :
    (∀ i line gap path, (source.toList.splitOn '\n')[i]? = some line → IsInclude gap path line → Escapes path →
      (Reports source (i + 1) ↔ gap ≠ [])) ∧
    (∀ n, Reports source n ↔ ∃ i line gap path, n = i + 1 ∧ (source.toList.splitOn '\n')[i]? = some line ∧
      IsInclude gap path line ∧ gap ≠ [] ∧ Escapes path) ∧
    ∀ n, Reports source n → ∀ (w : Workshop) (r : Request), r.source = source →
      (∃ failure, Compile.job w r = .ended (.error failure)) ∧
      ∀ events id, Distinct (events ++ [.submit id r]) →
        ∃ failure, w.Refuses r failure ∧ RefusedWith w events id r failure := by
  refine ⟨fun i line gap path there includes escaping => ?_, fun n => reports_iff_exists,
    fun n reported w r given => refused_of_reports reported w r given⟩
  have oneLine := Text.not_mem_of_mem_splitOn (List.mem_of_getElem? there)
  rw [reports_iff_isEscapingInclude there, includes.isEscapingInclude_iff oneLine, and_iff_left escaping]

/-- An include in the second line, with blanks in every place where they may stand. -/
theorem escaping_include_reported_iff_secondLine :
    Reports "int x;\n # import_next\t<a/../b>" 2 ∧
    ∃ failure, smallWorkshop.Refuses ⟨"cc", "int x;\n # import_next\t<a/../b>", [], {}⟩ failure ∧
      RefusedWith smallWorkshop [] 0 ⟨"cc", "int x;\n # import_next\t<a/../b>", [], {}⟩ failure := by
  obtain ⟨told, -, refused⟩ := escaping_include_reported_iff "int x;\n # import_next\t<a/../b>"
  have includes : IsInclude ['\t'] "a/../b>".toList " # import_next\t<a/../b>".toList :=
    ⟨[' '], [' '], "import_next".toList, '<', List.forall_mem_singleton.mpr rfl, List.forall_mem_singleton.mpr rfl,
      by decide, List.forall_mem_singleton.mpr rfl, .inr rfl, rfl⟩
  have escaping : Escapes "a/../b>".toList := .inr ⟨['a', '/'], ['/', 'b', '>'], rfl⟩
  have reported := (told 1 _ _ _ (by rfl) includes escaping).mpr (List.cons_ne_nil _ _)
  exact ⟨reported, (refused 2 reported smallWorkshop _ rfl).2 [] 0 (by decide)⟩

/-- An include of an absolute path, with nothing between its word and the quote. -/
theorem unspaced_include_compiled :
    IsInclude [] "/etc/passwd\"".toList "#include\"/etc/passwd\"".toList ∧ Escapes "/etc/passwd\"".toList ∧
    check "#include\"/etc/passwd\"" = none ∧
    (after smallWorkshop [.submit 0 ⟨"cc", "#include\"/etc/passwd\"", [], {}⟩]).job? 0 =
      some ⟨"cc", "#include\"/etc/passwd\"", [], {}⟩ := by
  have includes : IsInclude [] "/etc/passwd\"".toList "#include\"/etc/passwd\"".toList :=
    ⟨[], [], "include".toList, '"', List.forall_mem_nil _, List.forall_mem_nil _, by decide, List.forall_mem_nil _,
      .inl rfl, rfl⟩
  have admitted : (start smallWorkshop).admissible ⟨"cc", "#include\"/etc/passwd\"", [], {}⟩ =
      .ok ⟨"cc", "#include\"/etc/passwd\"", [], {}⟩ := by rfl
  exact ⟨includes, by decide, by rfl, job?_first admitted (by rfl) (by decide)⟩

end AsmScope.Service
