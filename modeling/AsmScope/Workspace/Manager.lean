import AsmScope.Files.Wild
import AsmScope.Settings.Sections

/-! Handing out directories and taking them back. Their names are numbered, and a number whose name is taken is passed
over. An old one that was left behind is swept away, at most once in the interval that the settings give. Times are
whole nanoseconds. -/

namespace AsmScope

structure Manager where
  settings : WorkspaceSettings
  root : String
  tree : FileTree
  now : Int
  lastSweep : Int
  count : Nat
  deriving DecidableEq, Repr

namespace Manager

def start (settings : WorkspaceSettings) (fallbackRoot : String) (now : Int) : Manager :=
  ⟨settings, settings.root.getD fallbackRoot, .empty now, now, now, 0⟩

def pass (m : Manager) (nanos : Int) : Manager := { m with now := m.now + nanos }

def pattern (m : Manager) : List WildStep := WildStep.read (m.settings.namePrefix ++ "*")

def candidates (m : Manager) : List Location :=
  match m.tree.existing m.root with
  | .ok (place, n) => if n.content.isNone then WildStep.places m.tree m.pattern place else []
  | .error _ => []

def isStale (cutoff : Int) (t : FileTree) (place : Location) : Bool :=
  (t.node? place).any fun n => n.content.isNone && n.modified ≤ cutoff

def sweepOne (now cutoff : Int) (swept : Nat × FileTree) (place : Location) : Nat × FileTree :=
  if isStale cutoff swept.2 place then (swept.1 + 1, swept.2.removeAt now place) else swept

def sweep (m : Manager) (age : Int) : Nat × Manager :=
  let (count, tree) := m.candidates.foldl (sweepOne m.now (m.now - age)) (0, m.tree)
  (count, { m with tree := tree })

def interval (m : Manager) : Int := m.settings.cleanupSecs * nanosPerSecond

def sweepIsDue (m : Manager) : Bool := m.interval ≤ m.now - m.lastSweep

def sweepIfDue (m : Manager) : Manager :=
  if m.sweepIsDue then ({ m with lastSweep := m.now }.sweep m.interval).2 else m

/-- A name under the root; one that begins with a slash has a root of its own. -/
def under (m : Manager) (name : String) : String :=
  if name.toList.head? = some '/' then name
  else if m.root.toList.getLast? = some '/' then m.root ++ name
  else m.root ++ "/" ++ name

def nameOf (m : Manager) (n : Nat) : String := m.settings.namePrefix ++ "job" ++ toString n

/-- A directory for the first free number from the given one on; no more are tried than there are nodes. -/
def makeFrom (m : Manager) : Nat → Nat → Except FileError String × Manager
  | 0, n => (.error ⟨.alreadyThere, m.under (m.nameOf n)⟩, m)
  | tries + 1, n =>
    let path := m.under (m.nameOf n)
    match m.tree.makeDirectory m.now path with
    | .ok (_, tree) => (.ok (Path.normal path), { m with tree := tree, count := n })
    | .error .alreadyThere => makeFrom m tries (n + 1)
    | .error fault => (.error ⟨fault, path⟩, { m with count := n })

def acquire (m : Manager) : Except FileError String × Manager :=
  let m := m.sweepIfDue
  match m.tree.ensureAll m.now m.root with
  | .error e => (.error e, m)
  | .ok tree => makeFrom { m with tree := tree } (tree.nodes.length + 1) (m.count + 1)

def release (m : Manager) (path : String) : Manager := { m with tree := m.tree.remove m.now path }

def path (m : Manager) (name : String) : String := Path.under m.root name

def names? (m : Manager) : Option (List String) := m.tree.names? m.root

end Manager
end AsmScope
