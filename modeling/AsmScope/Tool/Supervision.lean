import AsmScope.Tool.Capture
import AsmScope.Tool.Launch

/-! Supervising a running tool. Two streams are captured until they close; the tool is killed when one of them
crosses its limit or when the time is over. The supervision returns when the tool has exited and both streams
are closed, and it ends without an output when it is cancelled. -/

namespace AsmScope
open AsmScope.Text

inductive Stream where
  | out
  | err
  deriving DecidableEq, Repr

inductive ToolEvent where
  | chunk (stream : Stream) (octets : Octets)
  | closed (stream : Stream)
  | exited (code : Int)
  | deadline
  | cancelled
  deriving DecidableEq, Repr

inductive SupervisionEnd where
  | returned
  | cancelled
  deriving DecidableEq, Repr

structure Supervision where
  out : Capture
  err : Capture
  outOpen : Bool
  errOpen : Bool
  code : Option Int
  killSent : Bool
  timedOut : Bool
  ended : Option SupervisionEnd
  deriving DecidableEq, Repr

namespace Supervision

/-- A tool may have exited before anything is read, and may have no streams. -/
def start (limit : Nat) (streams : Bool) (code : Option Int) : Supervision :=
  ⟨.empty limit, .empty limit, streams, streams, code, false, false, none⟩

def kill (s : Supervision) : Supervision := if s.code.isSome then s else { s with killSent := true }

def feed (s : Supervision) (stream : Stream) (octets : Octets) : Supervision :=
  match stream with
  | .out =>
    if s.outOpen then
      let (crossed, out) := s.out.feed octets
      let s := { s with out := out }
      if crossed then s.kill else s
    else s
  | .err =>
    if s.errOpen then
      let (crossed, err) := s.err.feed octets
      let s := { s with err := err }
      if crossed then s.kill else s
    else s

def isComplete (s : Supervision) : Bool := s.code.isSome && !s.outOpen && !s.errOpen

def settle (s : Supervision) : Supervision := if s.isComplete then { s with ended := some .returned } else s

def step (s : Supervision) (event : ToolEvent) : Supervision :=
  if s.ended.isSome then s
  else
    match event with
    | .chunk stream octets => s.feed stream octets
    | .closed .out => settle { s with outOpen := false }
    | .closed .err => settle { s with errOpen := false }
    | .exited code => settle { s with code := s.code.or (some code) }
    | .deadline => if s.timedOut then s else { s.kill with timedOut := true }
    | .cancelled => { s with ended := some .cancelled }

def run (s : Supervision) (events : List ToolEvent) : Supervision := events.foldl step s

def timeoutMark : String := "\nKilled - processing time exceeded"

def output (s : Supervision) : ToolOutput :=
  ⟨s.code, s.out.text, if s.timedOut then s.err.text ++ timeoutMark else s.err.text, s.timedOut,
    s.out.truncated, s.err.truncated⟩

end Supervision
end AsmScope
