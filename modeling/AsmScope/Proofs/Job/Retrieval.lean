import AsmScope.Proofs.Job.Timely
import AsmScope.Proofs.Listing.Reading

/-! Where the text of a listing comes from, and how it is read. The text is a converted trace, what the disassembler
says, the output file, or what a pipeline makes of that file. How it is read depends on what was asked for and not on
where it came from, so that a compiler whose binaries are not disassembled has its text misread. -/

namespace AsmScope

inductive Origin where
  | converter
  | disassembler
  | outputFile
  | pipeline
  deriving DecidableEq, Repr

namespace Compile
open AsmScope.Plan

/-- What was done in a run brought in a text. The compiler's output is given, as other tools run after it. -/
inductive Yields (w : Workshop) (c : CompilerSettings) (r : Request) (compiled : ToolOutput) (trace : List Answered) :
    Origin → String → Prop where
  | converter (traces : c.tracesOutput = true) : Yields w c r compiled trace .converter (traceText compiled.stdout)
  | disassembler {output : String} {o : ToolOutput} (ran : (disassemblerLaunch w r output, o) ∈ started trace)
      (exit : o.code = some 0) (inTime : o.okToCache = true) : Yields w c r compiled trace .disassembler o.stdout
  | outputFile {output : String} {octets : Text.Octets} (read : ⟨.read output, .ok octets⟩ ∈ trace) :
      Yields w c r compiled trace .outputFile (readText octets)
  | pipeline {output directory : String} {o : ToolOutput}
      (ran : (pipelineLaunch w c output directory, o) ∈ started trace) (exit : o.code = some 0)
      (inTime : o.okToCache = true) : Yields w c r compiled trace .pipeline o.stdout

theorem ToolCourse.work_eq {result : Result} {l : Launch} {trace : List Answered} {got : Retrieved}
    (h : ToolCourse result l trace got) : ∀ a ∈ trace, a.work = .launch l := by
  cases h <;> exact fun a ha => List.mem_singleton.mp ha ▸ rfl

theorem ToolCourse.shows {result : Result} {l l' : Launch} {trace : List Answered} {got : Retrieved} {o : ToolOutput}
    (h : ToolCourse result l trace got) (ran : (l', o) ∈ started trace) (exit : o.code = some 0)
    (inTime : o.okToCache = true) :
    l' = l ∧ got.shown = .text o.stdout ∧ got.result.okToCache = result.okToCache := by
  cases h with
  | ran o' =>
    obtain ⟨rfl, rfl⟩ : l' = l ∧ o = o' := Prod.mk.inj (List.mem_singleton.mp ran)
    exact ⟨rfl, by simp [ofTool, inTime, exit], by rw [ofTool_okToCache, inTime, Bool.and_true]⟩
  | unstarted => cases ran

/-- The text that was brought in is what is shown, and it is a disassembly just if binaries are disassembled. -/
theorem Retrieval.shows {w : Workshop} {c : CompilerSettings} {r : Request} {directory output : String}
    {result : Result} {o : ToolOutput} {trace : List Answered} {got : Retrieved} {origin : Origin} {s : String}
    (h : Retrieval w c r directory output result o.stdout trace got) (yields : Yields w c r o trace origin s) :
    got.shown = .text s ∧ got.result.okToCache = result.okToCache ∧
      (origin == .disassembler) = (!c.tracesOutput && (r.filters.binary && !c.isMsvc)) := by
  cases yields with
  | converter traces =>
    cases h with
    | converter => exact ⟨rfl, rfl, by rw [traces]; rfl⟩
    | disassembler plain | noText plain | outputFile plain | pipeline plain =>
      rw [traces] at plain
      cases plain
  | disassembler ran exit inTime =>
    cases h with
    | converter | noText | outputFile => cases ran
    | disassembler plain binary unix tool =>
      obtain ⟨-, shown, mark⟩ := tool.shows ran exit inTime
      exact ⟨shown, mark, by rw [plain, binary, unix]; rfl⟩
    | pipeline plain textual size tool =>
      have other := congrArg Launch.command (tool.shows ran exit inTime).1
      cases other
  | outputFile read =>
    cases h with
    | converter => cases read
    | disassembler plain binary unix tool => cases tool.work_eq _ read
    | noText =>
      have other := congrArg Answered.work (List.mem_singleton.mp read)
      cases other
    | outputFile plain textual size octets =>
      rcases List.mem_cons.mp read with same | read
      · have other := congrArg Answered.work same
        cases other
      · cases List.mem_singleton.mp read
        exact ⟨rfl, rfl, by rw [plain, textual]; rfl⟩
    | pipeline plain textual size tool =>
      rcases List.mem_cons.mp read with same | read
      · have other := congrArg Answered.work same
        cases other
      · cases tool.work_eq _ read
  | pipeline ran exit inTime =>
    cases h with
    | converter | noText | outputFile => cases ran
    | disassembler plain binary unix tool =>
      have other := congrArg Launch.command (tool.shows ran exit inTime).1
      cases other
    | pipeline plain textual size tool =>
      obtain ⟨-, shown, mark⟩ := tool.shows ran exit inTime
      exact ⟨shown, mark, by rw [plain, textual]; rfl⟩

theorem normalize_filters {w : Workshop} {r r' : Request} {entry : Entry}
    (found : w.registry.lookup r.compiler = .ok entry) (normal : w.normalize r = .ok r') :
    r'.filters = { r.filters with binary := r.filters.binary && entry.settings.supportsBinary } := by
  simp only [Workshop.normalize, found] at normal
  change (if r.filters.binary && !entry.settings.supportsBinary then
    Except.ok (r.withFilters { r.filters with binary := false }) else Except.ok r) = Except.ok r' at normal
  split at normal
  · rename_i unable
    obtain rfl := Except.ok.inj normal
    rw [Bool.and_eq_true, Bool.not_eq_true'] at unable
    simp [Request.withFilters, unable.2]
  · rename_i able
    obtain rfl := Except.ok.inj normal
    have kept : (r.filters.binary && entry.settings.supportsBinary) = r.filters.binary := by
      cases binary : r.filters.binary with
      | false => rfl
      | true => simpa [binary] using able
    rw [kept]

theorem finish_text {w : Workshop} {r : Request} {got : Retrieved} {trace : List Answered} {result : Result}
    {s : String} (h : (finish w r got).Runs trace (.ok result)) (inTime : got.result.okToCache = true)
    (shown : got.shown = .text s) : result.asm = .listing (Listing.ofText (viewOf w) r.filters s) := by
  unfold finish at h
  simp only [inTime, shown, Bool.not_true, Bool.false_eq_true, if_false] at h
  obtain ⟨u, rest, rfl, given⟩ := runs_perform_bind_ok_iff.mp h
  obtain ⟨lines, listed, given⟩ := runs_ofExcept_bind_ok_iff.mp given
  obtain ⟨rfl, rfl⟩ := runs_pure_ok_iff.mp given
  rw [(Listing.read_eq_ok_iff.mp listed).2]

section Whole
variable {w : Workshop} {c : CompilerSettings} {r r' : Request} {o : ToolOutput} {input source directory : String}
  {command : CommandLine} {rest after : List Answered}

def wholeTrace (w : Workshop) (c : CompilerSettings) (command : CommandLine) (input source directory : String)
    (o : ToolOutput) (rest after : List Answered) : List Answered :=
  ⟨.acquire, .ok directory⟩ :: (⟨.write input source, .ok ()⟩ ::
    ⟨.launch (compilerLaunch w c command directory), .ok o⟩ :: rest ++ ⟨.release directory, .ok ()⟩ :: after)

theorem started_wholeTrace (last : ∀ a ∈ after, a.work = .pause) :
    started (wholeTrace w c command input source directory o rest after) =
      (compilerLaunch w c command directory, o) :: started rest := by
  have idle : started (⟨.release directory, .ok ()⟩ :: after) = [] := by
    refine List.filterMap_eq_nil_iff.mpr fun a ha => ?_
    have kind : a.work = .release directory ∨ a.work = .pause :=
      (List.mem_cons.mp ha).imp (congrArg Answered.work) (last a)
    unfold Answered.started?
    split
    · rcases kind with release | pause
      · cases release
      · cases pause
    · rfl
  have inside : started (rest ++ ⟨.release directory, .ok ()⟩ :: after) = started rest := by
    rw [started, List.filterMap_append]
    exact (congrArg _ idle).trans (List.append_nil _)
  exact congrArg _ inside

theorem mem_rest_of_read {path : String} {answer : Except Failure Text.Octets}
    (h : ⟨.read path, answer⟩ ∈ wholeTrace w c command input source directory o rest after)
    (last : ∀ a ∈ after, a.work = .pause) : ⟨.read path, answer⟩ ∈ rest := by
  have other {a : Answered} (kind : Work.read path ≠ a.work) : ⟨.read path, answer⟩ ≠ a :=
    fun same => kind (congrArg Answered.work same)
  simp only [wholeTrace, List.cons_append, List.mem_cons, List.mem_append] at h
  rcases h with same | same | same | there | same | there
  · exact absurd same (other nofun)
  · exact absurd same (other nofun)
  · exact absurd same (other nofun)
  · exact there
  · exact absurd same (other nofun)
  · cases last _ there

theorem Yields.inside {origin : Origin} {s : String}
    (yields : Yields w c r o (wholeTrace w c command input source directory o rest after) origin s)
    (last : ∀ a ∈ after, a.work = .pause) (dialect : r'.filters.intel = r.filters.intel) :
    Yields w c r' o rest origin s := by
  have same (output : String) : disassemblerLaunch w r output = disassemblerLaunch w r' output := by
    rw [disassemblerLaunch, disassemblerLaunch, dialect]
  cases yields with
  | converter traces => exact .converter traces
  | disassembler ran exit inTime =>
    rw [started_wholeTrace last] at ran
    rcases List.mem_cons.mp ran with compiler | ran
    · have other := congrArg (fun tool => tool.1.directory) compiler
      cases other
    · exact .disassembler (same _ ▸ ran) exit inTime
  | outputFile read => exact .outputFile (mem_rest_of_read read last)
  | pipeline ran exit inTime =>
    rw [started_wholeTrace last] at ran
    rcases List.mem_cons.mp ran with compiler | ran
    · have other := congrArg (fun tool => tool.1.command) compiler
      cases other
    · exact .pipeline ran exit inTime

end Whole

/-- The request asks for a binary and the compiler makes one, but its listing is not a disassembly. -/
def misreads (c : CompilerSettings) (f : Filters) : Bool :=
  f.binary && c.supportsBinary && (c.tracesOutput || c.isMsvc)

def readAs (w : Workshop) (r : Request) (binary : Bool) (s : String) : Assembly :=
  .listing (Listing.ofText (viewOf w) { r.filters with binary := binary } s)

/-- How the text of a listing is read. The compiler is the first tool that is started; it ends well and in time, and
the work that is done brings in a text. Unless the request is misread, a text of the disassembler is read as a
disassembly and any other as assembler text. A request that is misread has its text from elsewhere than the
disassembler, and yet it is read as a disassembly. -/
theorem text_read_by_origin {w : Workshop} {r : Request} {entry : Entry} {trace : List Answered} {result : Result}
    {l : Launch} {o : ToolOutput} {origin : Origin} {s : String}
    (found : w.registry.lookup r.compiler = .ok entry) (ran : (job w r).Runs trace (.ok result))
    (compiled : (started trace).head? = some (l, o)) (exit : o.code = some 0) (inTime : o.okToCache = true)
    (yields : Yields w entry.settings r o trace origin s) :
    (misreads entry.settings r.filters = false → result.asm = readAs w r (origin == .disassembler) s) ∧
    (misreads entry.settings r.filters = true → origin ≠ .disassembler ∧ result.asm = readAs w r true s) := by
  obtain ⟨entry', b, r', directory, work, got, after, found', normal, within, finished, rfl⟩ := stages_of_job ran
  obtain rfl : entry = entry' := Except.ok.inj (found.symm.trans found')
  obtain ⟨input, output, command, o', first, rest, rfl, told, retrieved⟩ := stages_of_runIn within
  have last := finished.of_asks (asks_finish ..)
  have filters := normalize_filters found normal
  change (started (wholeTrace w entry.settings command input _ directory o' rest after)).head? = _ at compiled
  rw [started_wholeTrace last, List.head?_cons, Option.some.injEq] at compiled
  obtain ⟨rfl, rfl⟩ := Prod.mk.inj compiled
  rw [if_pos exit] at retrieved
  have dialect : r'.filters.intel = r.filters.intel := by rw [filters]
  obtain ⟨shown, mark, mode⟩ := (retrieval_of_retrieve retrieved).shows (yields.inside last dialect)
  have asm : result.asm = readAs w r (r.filters.binary && entry.settings.supportsBinary) s := by
    rw [finish_text finished (mark.trans ?_) shown, filters]
    · rfl
    · rw [firstResult_eq_ok told]
      exact inTime
  rw [filters] at mode
  simp only at mode
  rw [asm]
  unfold misreads
  generalize (r.filters.binary && entry.settings.supportsBinary) = asked at mode ⊢
  refine ⟨fun plain => ?_, fun missed => ?_⟩
  · have agree : asked = (origin == .disassembler) := by
      rw [mode]
      cases asked <;> simp_all
    rw [← agree]
  · rw [Bool.and_eq_true, Bool.or_eq_true] at missed
    have elsewhere : (origin == .disassembler) = false := by
      rw [mode]
      rcases missed.2 with traces | msvc <;> simp [*]
    exact ⟨by simpa using elsewhere, by rw [missed.1]⟩

def objectCompiler : CompilerSettings := { id := "cc", exe := some "/bin/cc" }

def tracingCompiler : CompilerSettings := { id := "6g", exe := some "/bin/6g", tracesOutput := true }

def mixedWorkshop : Workshop where
  config := {}
  registry := .ofSettings [objectCompiler, tracingCompiler] {}
  screen := ⟨.empty, .never⟩
  stub := .never
  environment := []

def binaryRequest (c : CompilerSettings) : Request := ⟨c.id, "int x;", [], { binary := true }⟩

def traceOutput : ToolOutput := ⟨some 0, "1 (a.go:3) RET\n", "", false, false, false⟩

def disassemblerOutput : ToolOutput :=
  ⟨some 0, "0000000000001139 <main>:\n    1139:\tc3 \tret\n", "", false, false, false⟩

def toolAnswers : (work : Work) → Except Failure work.Answer
  | .acquire => .ok "ws/job1"
  | .write _ _ => .ok ()
  | .launch l => .ok (if l.directory.isSome then traceOutput else disassemblerOutput)
  | .measure _ => .ok none
  | .read _ => .ok []
  | .release _ => .ok ()
  | .pause => .ok ()

def binaryRun (c : CompilerSettings) : List Answered × Except Failure Result :=
  (job mixedWorkshop (binaryRequest c)).follow toolAnswers

def binaryLaunch (c : CompilerSettings) (program : String) : Launch :=
  compilerLaunch mixedWorkshop c ⟨program, ["-g", "-o", "ws/job1/output.s", "ws/job1/example.cpp"]⟩ "ws/job1"

theorem text_read_by_origin_mixed :
    (binaryRun objectCompiler).2.toOption.map Result.asm =
      some (readAs mixedWorkshop (binaryRequest objectCompiler) true disassemblerOutput.stdout) ∧
    (binaryRun tracingCompiler).2.toOption.map Result.asm =
      some (readAs mixedWorkshop (binaryRequest tracingCompiler) true (traceText traceOutput.stdout)) := by
  have ran (c : CompilerSettings) (ends : (binaryRun c).2.toOption.isSome = true) :
      ∃ result, (binaryRun c).2.toOption = some result ∧
        (job mixedWorkshop (binaryRequest c)).Runs (binaryRun c).1 (.ok result) := by
    cases ended : (binaryRun c).2 with
    | error e =>
      rw [ended] at ends
      cases ends
    | ok result => exact ⟨result, rfl, ended ▸ Plan.runs_follow toolAnswers _⟩
  constructor
  · obtain ⟨result, ended, ran⟩ := ran objectCompiler (by decide +kernel)
    have found : mixedWorkshop.registry.lookup (binaryRequest objectCompiler).compiler =
        .ok (Registry.entryOf {} objectCompiler) := rfl
    have compiled : (started (binaryRun objectCompiler).1).head? =
        some (binaryLaunch objectCompiler "/bin/cc", traceOutput) := by decide +kernel
    have disassembled : (disassemblerLaunch mixedWorkshop (binaryRequest objectCompiler) "ws/job1/output.s",
        disassemblerOutput) ∈ started (binaryRun objectCompiler).1 := by decide +kernel
    obtain ⟨agrees, -⟩ := text_read_by_origin found ran compiled rfl rfl (.disassembler disassembled rfl rfl)
    rw [ended, Option.map_some, agrees rfl]
    rfl
  · obtain ⟨result, ended, ran⟩ := ran tracingCompiler (by decide +kernel)
    have found : mixedWorkshop.registry.lookup (binaryRequest tracingCompiler).compiler =
        .ok (Registry.entryOf {} tracingCompiler) := rfl
    have compiled : (started (binaryRun tracingCompiler).1).head? =
        some (binaryLaunch tracingCompiler "/bin/6g", traceOutput) := by decide +kernel
    obtain ⟨-, misread⟩ := text_read_by_origin found ran compiled rfl rfl (.converter rfl)
    rw [ended, Option.map_some, (misread rfl).2]

/-- A trace that is read as a disassembly shows nothing, although it has an instruction. -/
theorem trace_misread :
    (binaryRun tracingCompiler).2.toOption.map Result.asm = some (.listing []) ∧
    readAs mixedWorkshop (binaryRequest tracingCompiler) false (traceText traceOutput.stdout) =
      .listing [⟨"        .file 1 \"a.go\"", none, none, none, []⟩, ⟨"        .loc 1 3", none, none, none, []⟩,
        ⟨"        ret", some ⟨3, some "a.go"⟩, none, none, []⟩] := by
  decide +kernel

end Compile
end AsmScope
