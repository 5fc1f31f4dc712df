import AsmScope.Job.Compile
import AsmScope.Proofs.Job.Runs

/-! What a job asks for, and in which order: nothing, or a directory alone, or a directory with the work inside, its
release, and after that at most a pause. A job that comes to a result has gone through its stages one by one, and the
text of its listing was retrieved in one of a few ways. -/

namespace AsmScope

def Work.IsInside : Work → Prop
  | .write _ _ | .launch _ | .measure _ | .read _ => True
  | .acquire | .release _ | .pause => False

namespace Compile
open AsmScope.Plan

theorem asks_runTool (result : Result) (l : Launch) : (runTool result l).Asks Work.IsInside := by
  refine (asks_perform trivial).attempt.bind fun outcome => ?_
  split <;> exact .ended _

theorem asks_retrieve (w : Workshop) (c : CompilerSettings) (r : Request) (directory output : String) (result : Result)
    (stdout : String) : (retrieve w c r directory output result stdout).Asks Work.IsInside := by
  unfold retrieve
  split
  · exact .ended _
  split
  · exact asks_runTool _ _
  refine (asks_perform trivial).bind fun size => ?_
  split
  · exact .ended _
  split
  · exact .ended _
  split
  · exact (asks_perform trivial).bind fun octets => .ended _
  · exact asks_runTool _ _

theorem asks_runIn (w : Workshop) (c : CompilerSettings) (b : Builder) (r : Request) (source directory : String) :
    (runIn w c b r source directory).Asks Work.IsInside := by
  refine (asks_perform trivial).bind fun _ => (asks_perform trivial).bind fun o => ?_
  split
  · exact Asks.bind (.ended _) fun result => asks_retrieve ..
  · exact Asks.bind (.ended _) fun result => .ended _

theorem asks_finish (w : Workshop) (r : Request) (got : Retrieved) : (finish w r got).Asks (· = .pause) := by
  unfold finish
  simp only
  split
  · exact .ended _
  split
  · exact .ended _
  · exact Asks.bind (asks_perform rfl) fun _ => Asks.bind (.ended _) fun _ => .ended _

/-- The ways in which the work of a job goes, with what the job comes to. -/
inductive Course : List Answered → Except Failure Result → Prop where
  | idle (e : Failure) : Course [] (.error e)
  | outside (e : Failure) : Course [⟨.acquire, .error e⟩] (.error e)
  | inside {directory : String} {within after : List Answered} {released : Except Failure Unit}
      {outcome : Except Failure Result} (inner : ∀ a ∈ within, a.work.IsInside) (last : ∀ a ∈ after, a.work = .pause)
      (stopped : ∀ e, released = .error e → after = [] ∧ outcome = .error e) :
      Course (⟨.acquire, .ok directory⟩ :: (within ++ ⟨.release directory, released⟩ :: after)) outcome

theorem course_of_inDirectory {w : Workshop} {c : CompilerSettings} {b : Builder} {r : Request} {source : String}
    {trace after : List Answered} {got : Except Failure Retrieved} {outcome : Except Failure Result}
    (h : (inDirectory (runIn w c b r source)).Runs trace got) (last : ∀ a ∈ after, a.work = .pause)
    (ended : ∀ e, got = .error e → after = [] ∧ outcome = .error e) : Course (trace ++ after) outcome := by
  obtain ⟨e, rfl, rfl⟩ | ⟨directory, within, inner, released, ran, rfl, rfl⟩ := runs_inDirectory_iff.mp h
  · obtain ⟨rfl, rfl⟩ := ended e rfl
    exact .outside e
  · rw [List.cons_append, List.append_assoc]
    refine .inside (ran.of_asks (asks_runIn ..)) last fun e failed => ended e ?_
    rw [failed]
    rfl

theorem course_of_job {w : Workshop} {r : Request} {trace : List Answered} {outcome : Except Failure Result}
    (h : (job w r).Runs trace outcome) : Course trace outcome := by
  unfold job at h
  obtain ⟨e, -, rfl, rfl⟩ | ⟨entry, -, h⟩ := runs_ofExcept_bind_iff.mp h
  · exact .idle e
  split at h
  · obtain ⟨rfl, rfl⟩ := runs_fail_iff.mp h
    exact .idle _
  obtain ⟨e, -, rfl, rfl⟩ | ⟨r', -, h⟩ := runs_ofExcept_bind_iff.mp h
  · exact .idle e
  obtain ⟨e, -, rfl, rfl⟩ | ⟨u, -, h⟩ := runs_ofExcept_bind_iff.mp h
  · exact .idle e
  obtain ⟨e, rfl, within⟩ | ⟨got, before, after, rfl, within, finished⟩ := runs_bind_iff.mp h
  · rw [← List.append_nil trace]
    refine course_of_inDirectory within (fun a ha => nomatch ha) fun e' same => ⟨rfl, ?_⟩
    rw [Except.error.inj same]
  · exact course_of_inDirectory within (finished.of_asks (asks_finish ..)) fun e same => nomatch same

/-- A job that comes to a result had a directory, came to something in it, gave it back, and was finished. -/
theorem stages_of_job {w : Workshop} {r : Request} {trace : List Answered} {result : Result}
    (h : (job w r).Runs trace (.ok result)) :
    ∃ entry b r' directory work got after, w.registry.lookup r.compiler = .ok entry ∧ w.normalize r = .ok r' ∧
      (runIn w entry.settings b r' (sourceFor w r') directory).Runs work (.ok got) ∧
      (finish w r' got).Runs after (.ok result) ∧
      trace = ⟨.acquire, .ok directory⟩ :: (work ++ ⟨.release directory, .ok ()⟩ :: after) := by
  unfold job at h
  obtain ⟨e, -, -, same⟩ | ⟨entry, found, h⟩ := runs_ofExcept_bind_iff.mp h
  · cases same
  split at h
  · obtain ⟨-, same⟩ := runs_fail_iff.mp h
    cases same
  rename_i b _
  obtain ⟨e, -, -, same⟩ | ⟨r', normal, h⟩ := runs_ofExcept_bind_iff.mp h
  · cases same
  obtain ⟨e, -, -, same⟩ | ⟨u, -, h⟩ := runs_ofExcept_bind_iff.mp h
  · cases same
  obtain ⟨e, same, -⟩ | ⟨got, before, after, rfl, within, finished⟩ := runs_bind_iff.mp h
  · cases same
  obtain ⟨e, same, -⟩ | ⟨directory, work, inner, released, ran, rfl, same⟩ := runs_inDirectory_iff.mp within
  · cases same
  -- The body came to something, for nothing else would come out after the release.
  cases released with
  | error e => cases same
  | ok released =>
    obtain rfl : inner = .ok got := same.symm
    refine ⟨entry, b, r', directory, work, got, after, found, normal, ran, finished, ?_⟩
    rw [List.cons_append, List.append_assoc]
    rfl

theorem mapError_eq_ok_iff {ε ε' α : Type} {f : ε → ε'} {outcome : Except ε α} {a : α} :
    outcome.mapError f = .ok a ↔ outcome = .ok a := by
  cases outcome with
  | ok b =>
    have same : (Except.ok b : Except ε α).mapError f = .ok b := rfl
    rw [same, Except.ok.injEq, Except.ok.injEq]
  | error e => exact ⟨nofun, nofun⟩

theorem runs_ofExcept_bind_ok_iff {α β : Type} {ε : Type} {given : Except ε α} {f : ε → Failure} {next : α → Plan β}
    {trace : List Answered} {b : β} :
    (ofExcept (given.mapError f) >>= next).Runs trace (.ok b) ↔
      ∃ a, given = .ok a ∧ (next a).Runs trace (.ok b) := by
  rw [runs_ofExcept_bind_iff]
  simp only [mapError_eq_ok_iff, reduceCtorEq, and_false, exists_false, false_or]

theorem firstResult_eq_ok {input directory : String} {o : ToolOutput} {first : Result}
    (h : firstResult input directory o = .ok first) :
    first = ⟨o.code, Diagnostic.ofOutput input o.stdout, Diagnostic.ofOutput input o.stderr, .plain "", o.okToCache,
      some directory⟩ := by
  unfold firstResult Diagnostic.read at h
  split at h
  · cases h
  split at h
  · cases h
  · exact (Except.ok.inj h).symm

/-- In the directory the source is written and the compiler runs. What it says is read, and all else follows from how it
ends. -/
theorem stages_of_runIn {w : Workshop} {c : CompilerSettings} {b : Builder} {r : Request} {source directory : String}
    {trace : List Answered} {got : Retrieved} (h : (runIn w c b r source directory).Runs trace (.ok got)) :
    ∃ (input output : String) (command : CommandLine) (o : ToolOutput) (first : Result) (rest : List Answered),
      trace = ⟨.write input source, .ok ()⟩ :: ⟨.launch (compilerLaunch w c command directory), .ok o⟩ :: rest ∧
      firstResult input directory o = .ok first ∧
      (if o.code = some 0 then retrieve w c r directory output first o.stdout
        else pure ⟨first, .notice failedNotice⟩).Runs rest (.ok got) := by
  obtain ⟨u, rest, rfl, written⟩ := runs_perform_bind_ok_iff.mp h
  obtain ⟨o, rest, rfl, compiled⟩ := runs_perform_bind_ok_iff.mp written
  obtain ⟨first, told, compiled⟩ := runs_ofExcept_bind_ok_iff.mp compiled
  exact ⟨_, _, _, o, first, rest, rfl, told, compiled⟩

inductive ToolCourse (result : Result) (l : Launch) : List Answered → Retrieved → Prop where
  | ran (o : ToolOutput) : ToolCourse result l [⟨.launch l, .ok o⟩] (ofTool result o)
  | unstarted (program reason : String) :
      ToolCourse result l [⟨.launch l, .error (.notStarted program reason)⟩]
        ⟨result, .notice (noOutputNotice (Failure.notStarted program reason).message)⟩

theorem toolCourse_of_runTool {result : Result} {l : Launch} {trace : List Answered} {got : Retrieved}
    (h : (runTool result l).Runs trace (.ok got)) : ToolCourse result l trace got := by
  obtain ⟨e, same, -⟩ | ⟨outcome, before, after, rfl, tool, rest⟩ := runs_bind_iff.mp h
  · cases same
  obtain ⟨inner, same, launch⟩ := runs_attempt_iff.mp tool
  obtain rfl := Except.ok.inj same
  obtain rfl := runs_perform_iff.mp launch
  cases outcome with
  | ok o =>
    obtain ⟨rfl, rfl⟩ := runs_pure_ok_iff.mp rest
    exact .ran o
  | error e =>
    cases e with
    | notStarted program reason =>
      obtain ⟨rfl, rfl⟩ := runs_pure_ok_iff.mp rest
      exact .unstarted program reason
    | _ =>
      obtain ⟨-, same⟩ := runs_fail_iff.mp rest
      cases same

inductive Retrieval (w : Workshop) (c : CompilerSettings) (r : Request) (directory output : String) (result : Result)
    (stdout : String) : List Answered → Retrieved → Prop where
  | converter (traces : c.tracesOutput = true) :
      Retrieval w c r directory output result stdout [] ⟨{ result with stdout := [] }, .text (traceText stdout)⟩
  | disassembler (plain : c.tracesOutput = false) (binary : r.filters.binary = true) (unix : c.isMsvc = false)
      {trace : List Answered} {got : Retrieved} (tool : ToolCourse result (disassemblerLaunch w r output) trace got) :
      Retrieval w c r directory output result stdout trace got
  | noText (plain : c.tracesOutput = false) (textual : (r.filters.binary && !c.isMsvc) = false) (size : Option Nat)
      (notice : String) :
      Retrieval w c r directory output result stdout [⟨.measure output, .ok size⟩] ⟨result, .notice notice⟩
  | outputFile (plain : c.tracesOutput = false) (textual : (r.filters.binary && !c.isMsvc) = false) (size : Nat)
      (octets : Text.Octets) :
      Retrieval w c r directory output result stdout [⟨.measure output, .ok (some size)⟩, ⟨.read output, .ok octets⟩]
        ⟨result, .text (readText octets)⟩
  | pipeline (plain : c.tracesOutput = false) (textual : (r.filters.binary && !c.isMsvc) = false) (size : Nat)
      {trace : List Answered} {got : Retrieved}
      (tool : ToolCourse result (pipelineLaunch w c output directory) trace got) :
      Retrieval w c r directory output result stdout (⟨.measure output, .ok (some size)⟩ :: trace) got

theorem retrieval_of_retrieve {w : Workshop} {c : CompilerSettings} {r : Request} {directory output : String}
    {result : Result} {stdout : String} {trace : List Answered} {got : Retrieved}
    (h : (retrieve w c r directory output result stdout).Runs trace (.ok got)) :
    Retrieval w c r directory output result stdout trace got := by
  unfold retrieve at h
  cases traces : c.tracesOutput with
  | true =>
    rw [traces, if_pos rfl] at h
    obtain ⟨rfl, rfl⟩ := runs_pure_ok_iff.mp h
    exact .converter traces
  | false =>
    rw [traces, if_neg Bool.false_ne_true] at h
    cases binary : r.filters.binary && !c.isMsvc with
    | true =>
      rw [binary, if_pos rfl] at h
      simp only [Bool.and_eq_true, Bool.not_eq_true'] at binary
      exact .disassembler traces binary.1 binary.2 (toolCourse_of_runTool h)
    | false =>
      rw [binary, if_neg Bool.false_ne_true] at h
      obtain ⟨size, rest, rfl, found⟩ := runs_perform_bind_ok_iff.mp h
      cases size with
      | none =>
        obtain ⟨rfl, rfl⟩ := runs_pure_ok_iff.mp found
        exact .noText traces binary none _
      | some size =>
        simp only at found
        split at found
        · obtain ⟨rfl, rfl⟩ := runs_pure_ok_iff.mp found
          exact .noText traces binary (some size) _
        split at found
        · obtain ⟨octets, rest, rfl, shown⟩ := runs_perform_bind_ok_iff.mp found
          obtain ⟨rfl, rfl⟩ := runs_pure_ok_iff.mp shown
          exact .outputFile traces binary size octets
        · exact .pipeline traces binary size (toolCourse_of_runTool found)

end Compile
end AsmScope
