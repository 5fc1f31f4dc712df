import AsmScope.Job.Plan
import AsmScope.Rehearsal.Rule
import AsmScope.Workspace.Manager

/-! A described machine, on which jobs are rehearsed. It has tools, a tree of files with the
folder of workspaces, and a clock that moves only when a tool takes its time. Every launch is noted, also one that fails. -/

namespace AsmScope
open AsmScope.Text

structure Launched where
  command : ToolCommand
  directory : Option String
  environment : Option (List (String × String))
  source : Option String
  deriving DecidableEq, Repr

structure Machine where
  rules : List Rule
  inputName : String
  outputName : String
  manager : Manager
  launches : List Launched
  live : Nat
  /-- The most workspaces that stood at one time. -/
  peak : Nat
  deriving DecidableEq, Repr

namespace Machine

def root : String := "ws"

def startTime : Int := 1000000000 * nanosPerSecond

def start (settings : WorkspaceSettings) (inputName outputName : String) (rules : List Rule) : Machine :=
  ⟨rules, inputName, outputName, .start { settings with root := some root } root startTime, [], 0, 0⟩

def nanosPerMilli : Int := 1000000

def passMillis (m : Machine) (ms : Nat) : Machine := { m with manager := m.manager.pass (ms * nanosPerMilli) }

def tree (m : Machine) : FileTree := m.manager.tree

def setTree (m : Machine) (t : FileTree) : Machine := { m with manager := { m.manager with tree := t } }

def leftover (m : Machine) : List String := m.manager.names?.getD []

def acquire (m : Machine) : Except Failure String × Machine :=
  match m.manager.acquire with
  | (.ok path, manager) =>
    (.ok path, { m with manager := manager, live := m.live + 1, peak := max m.peak (m.live + 1) })
  | (.error e, manager) => (.error (.file e), { m with manager := manager })

def release (m : Machine) (directory : String) : Machine :=
  { m with manager := m.manager.release directory, live := m.live - 1 }

def write (m : Machine) (path text : String) : Except Failure Unit × Machine :=
  match m.tree.write m.manager.now path (encoded text) with
  | .ok t => (.ok (), m.setTree t)
  | .error fault => (.error (.file ⟨fault, path⟩), m)

def pathIn (directory : Option String) (name : String) : String :=
  (directory.map fun d => Path.under d name).getD ""

def sourceIn (m : Machine) (directory : Option String) : Option String :=
  (directory.bind fun d => (m.tree.read (Path.under d m.inputName)).toOption).map decoded

def note (m : Machine) (l : Launch) (source : Option String) : Machine :=
  { m with launches := m.launches ++ [⟨l.command, l.directory, l.environment, source⟩] }

def putOutput (m : Machine) (r : Rule) (directory : Option String) : Machine :=
  match r.output, directory with
  | some pieces, some d =>
    match m.tree.write m.manager.now (Path.under d m.outputName) (pieces.flatMap Piece.plainData) with
    | .ok t => m.setTree t
    | .error _ => m
  | _, _ => m

def refuse (l : Launch) (e : SystemError) : Except Failure ToolOutput :=
  .error (.notStarted l.command.label e.reason)

def launch (m : Machine) (l : Launch) : Except Failure ToolOutput × Nat × Machine :=
  let source := m.sourceIn l.directory
  let m := m.note l source
  match m.rules.find? fun r => r.isFor l.command source with
  | none => (refuse l (.numbered SystemError.notFound (SystemError.standardText SystemError.notFound)), 0, m)
  | some r =>
    match r.refusal with
    | some e => (refuse l e, 0, m)
    | none =>
      let (output, ms) := r.perform l.budget (pathIn l.directory m.inputName) (pathIn l.directory m.outputName)
      (.ok output, ms, m.putOutput r l.directory)

def read (m : Machine) (path : String) : Except Failure Octets :=
  (m.tree.read path).mapError fun fault => .file ⟨fault, path⟩

def measure (m : Machine) (path : String) : Except Failure (Option Nat) :=
  match m.tree.read path with
  | .ok data => .ok (some data.length)
  | .error .notFound => .ok none
  | .error fault => .error (.file ⟨fault, path⟩)

def perform (m : Machine) : (w : Work) → Except Failure w.Answer × Nat × Machine
  | .acquire => (m.acquire.1, 0, m.acquire.2)
  | .write path text => ((m.write path text).1, 0, (m.write path text).2)
  | .launch l => m.launch l
  | .measure path => (m.measure path, 0, m)
  | .read path => (m.read path, 0, m)
  | .release directory => (.ok (), 0, m.release directory)
  | .pause => (.ok (), 0, m)

def runPlan {α : Type} (m : Machine) : Plan α → Except Failure α × Machine
  | .ended outcome => (outcome, m)
  | .await w next =>
    let (answer, ms, after) := m.perform w
    runPlan (after.passMillis ms) (next answer)

end Machine
end AsmScope
