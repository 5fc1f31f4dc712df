import AsmScope.Cli.Command
import AsmScope.Console.Table
import AsmScope.Files.Tree
import AsmScope.Text.Numeral
import AsmScope.Web.Site

/-! One run of the command line on a described machine: what is printed and with which code it ends. A rejected
request and a wrong usage end with two, a compiler that fails with one. A table is shown as its title and its rows,
with a bar between the cells. -/

namespace AsmScope.Cli
open AsmScope.Text AsmScope.Console

structure Desk where
  config : AppConfig
  commands : List HostCommand
  rules : List Rule
  files : FileTree
  stdin : String

inductive Output where
  | text (s : String)
  | table (lines : List String)
  | served (configurations : List (Option String))
  deriving DecidableEq, Repr

structure Ending where
  code : Nat
  output : Output
  launches : List Launched
  deriving DecidableEq, Repr

namespace Ending

def ofUsage : Ending := ⟨2, .text "", []⟩

def isRejection (e : Ending) : Bool := e.code == 2

def crashed (launches : List Launched) : Ending := ⟨1, .text "", launches⟩

def notBegun : Command → Ending
  | .compilers | .environment => ⟨1, .table [], []⟩
  | .serve => ⟨1, .served [], []⟩
  | .compile _ | .help => crashed []

end Ending

namespace Desk

/-- The text that is to be compiled, if there is something at that path. What is there may be no text to read, and a
path may be none at all. -/
inductive Source where
  | text (s : String)
  | unreadable
  | missing

def oneLineEnds (s : String) : String := String.ofList (oneLineEnd s.toList)

def source (d : Desk) (path : String) : Source :=
  if path = "-" then .text (oneLineEnds d.stdin)
  else
    match d.files.read path with
    | .ok data => .text (oneLineEnds (decoded data))
    | .error .notFound | .error .notDirectory => .missing
    | .error _ => .unreadable

def payload (o : CompileOrder) (text : String) : Fields :=
  [("compiler", .string o.compiler), ("source", .string text), ("options", .string o.options),
    ("filters", o.filters.toValue)]

def rightAligned (width : Nat) (s : String) : String :=
  String.ofList (List.replicate (width - s.length) ' ') ++ s

def signedHex (n : Int) : String := if n < 0 then "-" ++ hexText n.natAbs else hexText n.natAbs

def location (l : Listing.Line) : String :=
  match l.address, l.source with
  | some address, _ => signedHex address
  | none, some ⟨line, none⟩ => toString line
  | none, _ => ""

def escaped (s : String) : String := String.ofList (escape s.toList)

def lineMarkup (l : Listing.Line) : String :=
  "[dim]" ++ rightAligned 8 (location l) ++ "[/dim] " ++ escaped l.text

def assemblyMarkup : Assembly → List String
  | .plain text => [escaped text]
  | .listing lines => lines.map lineMarkup

def keptOut : String := "[cyan]Result was not cached (the compiler was killed)."

def resultMarkup (r : Result) : List String :=
  r.stderr.map (fun d => "[yellow]" ++ escaped d.text) ++ r.stdout.map (fun d => escaped d.text)
    ++ assemblyMarkup r.asm ++ (if r.okToCache then [] else [keptOut])

def printAll : List String → String × Bool
  | [] => ("", true)
  | markup :: rest =>
    match printed? markup.toList with
    | none => ("", false)
    | some text =>
      let (more, done) := printAll rest
      (text ++ more, done)

def jsonText (r : Result) : String := lay (Json.render (Json.indented 2 false) r.toValue.sortKeys).toList

def resultText (o : CompileOrder) (r : Result) : String :=
  if o.json then jsonText r else (printAll (resultMarkup r)).1

def rejectionText (failure : Failure) : String := (printAll ["[red]" ++ escaped failure.message]).1

def compile (d : Desk) (o : CompileOrder) : Ending :=
  match d.source o.source with
  | .missing => .ofUsage
  | .unreadable => .crashed []
  | .text text =>
    let site := Web.Site.start d.config d.commands d.rules []
    let (outcome, rehearsal) : Outcome × Rehearsal := match Request.ofPayload (payload o text) with
      | .error failure => (.error failure, site.rehearsal)
      | .ok request => site.rehearsal.single request
    let launches := rehearsal.machine.launches
    match outcome with
    | .ok result => ⟨if result.code = some 0 then 0 else 1, .text (resultText o result), launches⟩
    | .error failure =>
      if failure.isRejection then ⟨2, .text (rejectionText failure), launches⟩ else .crashed launches

def yesNo (b : Bool) : String := if b then "yes" else "no"

def compilerRow (e : Entry) : List String :=
  let s := e.settings
  [s.id, s.displayName, yesNo s.supportsBinary, yesNo (!s.intelFlags.isEmpty),
    if s.isRemote then s.remote.getD "" else s.exe.getD ""]

def compilers (d : Desk) : Ending :=
  let registry := Registry.ofSettings d.config.compilers d.config.compilation
  match table? "Compilers" ["ID", "Name", "Binary", "Intel", "Location"] (registry.entries.map compilerRow) with
  | some lines => ⟨0, .table lines, []⟩
  | none => ⟨1, .table [], []⟩

def toolRow (t : ToolCheck) : List String :=
  [t.name, if t.isAvailable then "[green]OK" else "[red]Missing", t.version.getD ""]

def bullet : String := "  • "

def withHeading (heading : String) (items : List String) : List String :=
  if items.isEmpty then [] else heading :: items.map (bullet ++ ·)

/-- What is said below the table. Issues are taken as markup, notes are not. -/
def reportMarkup (r : EnvironmentReport) : List String :=
  ("Multiarch: " ++ (r.multiarch.filter fun triple => !triple.isEmpty).getD "-")
    :: withHeading "[red]Blocking issues detected:" r.issues
    ++ withHeading "[cyan]Notes:" (r.notes.map escaped)

def bareLines (s : String) : List String :=
  ((s.toList.splitOn '\n').map singleBlanks).filter fun line => !line.isEmpty

def environment (d : Desk) : Ending :=
  let report := EnvironmentReport.survey d.commands d.config
  match table? "Tooling" ["Tool", "Status", "Details"] (report.tools.map toolRow) with
  | none => ⟨1, .table ["Environment Report"], []⟩
  | some lines =>
    let (text, done) := printAll (reportMarkup report)
    ⟨if done then 0 else 1, .table ("Environment Report" :: lines ++ bareLines text), []⟩

def hasNull (path : String) : Bool := path.toList.contains (Char.ofNat 0)

def perform (d : Desk) (e : Errand) : Ending :=
  if e.configuration.any hasNull then .notBegun e.command
  else
    match e.command with
    | .compile o => d.compile o
    | .compilers => d.compilers
    | .environment => d.environment
    | .serve => ⟨0, .served [e.configuration], []⟩
    | .help => ⟨0, .text "", []⟩

def run (d : Desk) (words : List String) : Ending := ((Errand.read words).map d.perform).getD .ofUsage

end Desk
end AsmScope.Cli
