import AsmScope.Proofs.Job.Shape
import AsmScope.Proofs.Tool.Deadline

/-! What a job makes of late tools. The mark on the result says whether every tool that the job started was in time,
whichever way the listing was retrieved, and the form of the listing follows the mark. -/

namespace AsmScope

def Answered.started? : Answered → Option (Launch × ToolOutput)
  | ⟨.launch l, .ok o⟩ => some (l, o)
  | _ => none

def started (trace : List Answered) : List (Launch × ToolOutput) := trace.filterMap Answered.started?

/-- Every tool that was started was in time. -/
def isTimely (trace : List Answered) : Bool := (started trace).all fun tool => tool.2.okToCache

@[simp] theorem isTimely_nil : isTimely [] = true := rfl

@[simp] theorem isTimely_append (trace more : List Answered) :
    isTimely (trace ++ more) = (isTimely trace && isTimely more) := by
  simp [isTimely, started]

theorem isTimely_cons {a : Answered} (idle : a.started? = none) (trace : List Answered) :
    isTimely (a :: trace) = isTimely trace := by
  simp [isTimely, started, idle]

theorem isTimely_launch (l : Launch) (o : ToolOutput) (trace : List Answered) :
    isTimely (⟨.launch l, .ok o⟩ :: trace) = (o.okToCache && isTimely trace) := by
  simp [isTimely, started, Answered.started?]

theorem isTimely_eq_false_iff {trace : List Answered} {tools : List ToolRun}
    (all : started trace = tools.map fun t => (t.launch, t.output)) :
    isTimely trace = false ↔ ∃ t ∈ tools, t.HitsDeadline := by
  simp [isTimely, all, ToolRun.okToCache_iff]

def Assembly.isPlain : Assembly → Bool
  | .plain _ => true
  | .listing _ => false

theorem Assembly.isPlain_iff (a : Assembly) : a.isPlain = true ↔ ∃ text, a = .plain text := by
  cases a <;> simp [isPlain]

theorem Assembly.not_isPlain_iff (a : Assembly) : a.isPlain = false ↔ ∃ lines, a = .listing lines := by
  cases a <;> simp [isPlain]

namespace Compile
open AsmScope.Plan

theorem ofTool_okToCache (result : Result) (o : ToolOutput) :
    (ofTool result o).result.okToCache = (result.okToCache && o.okToCache) := by
  unfold ofTool
  cases inTime : o.okToCache with
  | true => simp only [if_true, Bool.and_true]; split <;> rfl
  | false => simp only [Bool.false_eq_true, if_false, Bool.and_false]; split <;> rfl

theorem ToolCourse.okToCache {result : Result} {l : Launch} {trace : List Answered} {got : Retrieved}
    (h : ToolCourse result l trace got) : got.result.okToCache = (result.okToCache && isTimely trace) := by
  cases h with
  | ran o => rw [ofTool_okToCache, isTimely_launch, isTimely_nil, Bool.and_true]
  | unstarted program reason => rw [isTimely_cons rfl, isTimely_nil, Bool.and_true]

/-- Each way of retrieving the text runs at most one tool. -/
theorem Retrieval.okToCache {w : Workshop} {c : CompilerSettings} {r : Request} {directory output : String}
    {result : Result} {stdout : String} {trace : List Answered} {got : Retrieved}
    (h : Retrieval w c r directory output result stdout trace got) :
    got.result.okToCache = (result.okToCache && isTimely trace) := by
  cases h with
  | converter traces => rw [isTimely_nil, Bool.and_true]
  | disassembler plain binary unix tool => exact tool.okToCache
  | noText plain textual size notice => rw [isTimely_cons rfl, isTimely_nil, Bool.and_true]
  | outputFile plain textual size octets =>
    rw [isTimely_cons rfl, isTimely_cons rfl, isTimely_nil, Bool.and_true]
  | pipeline plain textual size tool =>
    rw [isTimely_cons rfl]
    exact tool.okToCache

theorem runIn_okToCache {w : Workshop} {c : CompilerSettings} {b : Builder} {r : Request} {source directory : String}
    {trace : List Answered} {got : Retrieved} (h : (runIn w c b r source directory).Runs trace (.ok got)) :
    got.result.okToCache = isTimely trace := by
  obtain ⟨input, output, command, o, first, rest, rfl, told, compiled⟩ := stages_of_runIn h
  obtain rfl := firstResult_eq_ok told
  rw [isTimely_cons rfl]
  refine Eq.trans ?_ (isTimely_launch _ o rest).symm
  split at compiled
  · exact (retrieval_of_retrieve compiled).okToCache
  · obtain ⟨rfl, rfl⟩ := runs_pure_ok_iff.mp compiled
    rw [isTimely_nil, Bool.and_true]

/-- The form of the listing follows the mark, and the directory is not named any more. -/
theorem finish_result {w : Workshop} {r : Request} {got : Retrieved} {trace : List Answered} {result : Result}
    (h : (finish w r got).Runs trace (.ok result)) :
    result.okToCache = got.result.okToCache ∧ isTimely trace = true ∧ result.asm.isPlain = !result.okToCache ∧
      result.workspace = none := by
  unfold finish at h
  simp only at h
  cases timely : got.result.okToCache with
  | false =>
    rw [timely] at h
    obtain ⟨rfl, rfl⟩ := runs_pure_ok_iff.mp h
    exact ⟨rfl, rfl, rfl, rfl⟩
  | true =>
    rw [timely] at h
    simp only [Bool.not_true, Bool.false_eq_true, if_false] at h
    split at h
    · obtain ⟨rfl, rfl⟩ := runs_pure_ok_iff.mp h
      exact ⟨rfl, rfl, rfl, rfl⟩
    · obtain ⟨u, rest, rfl, shown⟩ := runs_perform_bind_ok_iff.mp h
      obtain ⟨lines, -, shown⟩ := runs_ofExcept_bind_ok_iff.mp shown
      obtain ⟨rfl, rfl⟩ := runs_pure_ok_iff.mp shown
      exact ⟨rfl, rfl, rfl, rfl⟩

/-- A result may be kept if every tool that the job started was in time; it is plain text if one was not. -/
theorem job_result {w : Workshop} {r : Request} {trace : List Answered} {result : Result}
    (h : (job w r).Runs trace (.ok result)) :
    result.okToCache = isTimely trace ∧ result.asm.isPlain = !result.okToCache ∧ result.workspace = none := by
  obtain ⟨entry, b, r', directory, work, got, after, -, -, ran, finished, rfl⟩ := stages_of_job h
  obtain ⟨mark, timely, form, place⟩ := finish_result finished
  refine ⟨?_, form, place⟩
  rw [mark, runIn_okToCache ran, isTimely_cons rfl, isTimely_append, isTimely_cons rfl, timely, Bool.and_true]

end Compile
end AsmScope
