import AsmScope.Compile.Registry
import AsmScope.Compile.Request
import AsmScope.Compile.Result
import AsmScope.Compile.Screen
import AsmScope.Job.Plan
import AsmScope.Listing.Trace
import AsmScope.Listing.View
import AsmScope.Path
import AsmScope.Shell.Words
import AsmScope.Text.Lines

/-! Compiling one request. The request is screened, the source is written into a directory of the job's own, the
compiler runs, and the assembly is retrieved: from standard output as a trace, from the disassembler, from the
output file, or from a pipeline over it. What went wrong after the compiler was started is shown as a notice
in place of the listing. -/

namespace AsmScope

structure Workshop where
  config : AppConfig
  registry : Registry
  screen : OptionScreen
  stub : Pattern
  environment : List (String × String)

namespace Workshop

def ofConfig (config : AppConfig) (environment : List (String × String)) : Workshop :=
  ⟨config, .ofSettings config.compilers config.compilation, .ofSettings config.compilation,
    .read config.compilation.stubPattern, environment⟩

def normalize (w : Workshop) (r : Request) : Except Failure Request := do
  let entry ← w.registry.lookup r.compiler
  if r.filters.binary && !entry.settings.supportsBinary then
    return r.withFilters { r.filters with binary := false }
  return r

def validate (w : Workshop) (r : Request) : Except Failure Unit :=
  match w.screen.bad r.options with
  | [] =>
    match Source.check r.source with
    | some failure => .error failure
    | none => .ok ()
  | options => .error (.badOptions options)

end Workshop

/-- What a job shows: a text to be listed, or a notice. -/
inductive Shown where
  | text (s : String)
  | notice (s : String)
  deriving DecidableEq, Repr

def Shown.content : Shown → String
  | .text s => s
  | .notice s => s

structure Retrieved where
  result : Result
  shown : Shown
  deriving DecidableEq, Repr

namespace Compile
open AsmScope.Plan

def outputName : String := "output.s"

def failedNotice : String := "<Compilation failed>"

def noFileNotice : String := "<No output file>"

def noOutputNotice (reason : String) : String := "<No output: " ++ reason ++ ">"

def tooLargeNotice (size limit : Nat) : String :=
  noOutputNotice ("generated assembly was too large (" ++ toString size ++ " > " ++ toString limit ++ " bytes)")

/-- A program without a main function gets one before it is linked. -/
def sourceFor (w : Workshop) (r : Request) : String :=
  if r.filters.binary && !w.stub.occursIn r.source.toList then
    r.source ++ "\n" ++ w.config.compilation.stubText ++ "\n"
  else r.source

def setVariable (environment : List (String × String)) (name value : String) : List (String × String) :=
  environment.filter (fun pair => pair.1 ≠ name) ++ [(name, value)]

/-- A compiler for several systems finds the libraries of the configured one. -/
def environmentFor (w : Workshop) (c : CompilerSettings) : List (String × String) :=
  match w.config.compilation.multiarch with
  | some triple =>
    if c.needsMultiarch && !triple.isEmpty then
      setVariable w.environment "LIBRARY_PATH" ("/usr/lib/" ++ triple)
    else w.environment
  | none => w.environment

def compileBudget (l : LimitSettings) : Budget := ⟨l.compileTimeoutMs, l.maxOutputBytes⟩

def toolBudget (l : LimitSettings) : Budget := ⟨l.compileTimeoutMs, l.maxAsmBytes⟩

def compilerLaunch (w : Workshop) (c : CompilerSettings) (command : CommandLine) (directory : String) : Launch :=
  ⟨.exec command.program command.args, some directory, some (environmentFor w c), compileBudget w.config.limits⟩

def disassemblerLaunch (w : Workshop) (r : Request) (output : String) : Launch :=
  ⟨.exec w.config.compilation.objdump
      (["-d", "-C", output, "-l", "--insn-width=16"] ++ (if r.filters.intel then ["-M", "intel"] else [])),
    none, none, toolBudget w.config.limits⟩

def pipelineLaunch (w : Workshop) (c : CompilerSettings) (output directory : String) : Launch :=
  ⟨.shell (String.intercalate " | " (("cat " ++ Shell.quoted output) :: c.postProcess)), some directory, none,
    toolBudget w.config.limits⟩

def ofTool (result : Result) (o : ToolOutput) : Retrieved :=
  let result := if o.okToCache then result else { result with okToCache := false }
  if o.code = some 0 then ⟨result, .text o.stdout⟩
  else
    let said := Text.trim o.stderr.toList
    let reason := if said.isEmpty then "exit code " ++ toString (o.code.getD 0) else String.ofList said
    ⟨result, .notice (noOutputNotice reason)⟩

/-- A tool that cannot be started is a notice; any other failure ends the job. -/
def runTool (result : Result) (l : Launch) : Plan Retrieved := do
  match ← attempt (perform (.launch l)) with
  | .ok o => return ofTool result o
  | .error (.notStarted program reason) =>
    return ⟨result, .notice (noOutputNotice (Failure.notStarted program reason).message)⟩
  | .error e => fail e

def readText (octets : Text.Octets) : String := String.ofList (Text.oneLineEnd (Text.decode octets))

def traceText (output : String) : String := String.ofList (Trace.toText (Text.allLines output.toList))

def retrieve (w : Workshop) (c : CompilerSettings) (r : Request) (directory output : String) (result : Result)
    (stdout : String) : Plan Retrieved := do
  if c.tracesOutput then return ⟨{ result with stdout := [] }, .text (traceText stdout)⟩
  else if r.filters.binary && !c.isMsvc then runTool result (disassemblerLaunch w r output)
  else
    match ← perform (.measure output) with
    | none => return ⟨result, .notice noFileNotice⟩
    | some size =>
      if w.config.limits.maxAsmBytes ≤ size then
        return ⟨result, .notice (tooLargeNotice size w.config.limits.maxAsmBytes)⟩
      else if c.postProcess.isEmpty then
        let octets ← perform (.read output)
        return ⟨result, .text (readText octets)⟩
      else runTool result (pipelineLaunch w c output directory)

def firstResult (input directory : String) (o : ToolOutput) : Except Text.LongNumeral Result := do
  let stdout ← Diagnostic.read input o.stdout
  let stderr ← Diagnostic.read input o.stderr
  return ⟨o.code, stdout, stderr, .plain "", o.okToCache, some directory⟩

def runIn (w : Workshop) (c : CompilerSettings) (b : Builder) (r : Request) (source directory : String) :
    Plan Retrieved := do
  let input := Path.under directory w.config.compilation.fileName
  let output := Path.under directory outputName
  perform (.write input source)
  let command := b.build ⟨r.options, r.filters, input, output⟩
  let o ← perform (.launch (compilerLaunch w c command directory))
  let result ← ofExcept ((firstResult input directory o).mapError .longNumeral)
  if o.code = some 0 then retrieve w c r directory output result o.stdout
  else return ⟨result, .notice failedNotice⟩

def viewOf (w : Workshop) : Listing.View :=
  ⟨some w.config.compilation.fileName, Listing.hidingPattern w.config.compilation.hiddenFunctions,
    some w.config.limits.maxAsmLines⟩

def noticeLines (s : String) : List Listing.Line :=
  match Text.linesOf s with
  | [] => [Listing.plain s]
  | lines => lines.map Listing.plain

/-- The result as it leaves the job: without a directory, and with its text as it is if some tool was cut off. -/
def finish (w : Workshop) (r : Request) (got : Retrieved) : Plan Result :=
  let result := { got.result with workspace := none }
  if !result.okToCache then return { result with asm := .plain got.shown.content }
  else
    match got.shown with
    | .notice s => return { result with asm := .listing (noticeLines s) }
    | .text s => do
      perform .pause
      let lines ← ofExcept ((Listing.read (viewOf w) r.filters s).mapError .longNumeral)
      return { result with asm := .listing lines }

/-- The whole job. A request that is refused asks for no work at all. -/
def job (w : Workshop) (r : Request) : Plan Result := do
  let entry ← ofExcept (w.registry.lookup r.compiler)
  match entry.builder with
  | none => fail (.remoteOnly entry.settings.id)
  | some b =>
    let r ← ofExcept (w.normalize r)
    ofExcept (w.validate r)
    let got ← inDirectory (runIn w entry.settings b r (sourceFor w r))
    finish w r got

end Compile
end AsmScope
