import AsmScope.Compile.Failure
import AsmScope.Text.Utf8
import AsmScope.Tool.Launch

/-! Plans of work. A plan has ended, or it waits for one piece of work and says how it goes on with the answer.
The answer may be a failure, and a plan that is cancelled while it waits is answered with the cancellation, so
every wait is a place where it can be cancelled. The effects of a piece of work happen when it is asked for. -/

namespace AsmScope

inductive Work where
  | acquire
  | write (path text : String)
  | launch (l : Launch)
  | measure (path : String)
  | read (path : String)
  | release (directory : String)
  | pause
  deriving DecidableEq, Repr

/-- A directory's path, the output of a tool, the size of a file if there is one, its octets. -/
def Work.Answer : Work → Type
  | .acquire => String
  | .write _ _ => Unit
  | .launch _ => ToolOutput
  | .measure _ => Option Nat
  | .read _ => Text.Octets
  | .release _ => Unit
  | .pause => Unit

inductive Plan (α : Type) where
  | ended (outcome : Except Failure α)
  | await (work : Work) (next : Except Failure work.Answer → Plan α)

namespace Plan
variable {α β : Type}

def bind : Plan α → (α → Plan β) → Plan β
  | .ended (.ok a), f => f a
  | .ended (.error e), _ => .ended (.error e)
  | .await w next, f => .await w fun answer => bind (next answer) f

instance : Monad Plan where
  pure a := .ended (.ok a)
  bind := bind

def fail (e : Failure) : Plan α := .ended (.error e)

def perform (w : Work) : Plan w.Answer := .await w .ended

def attempt : Plan α → Plan (Except Failure α)
  | .ended outcome => .ended (.ok outcome)
  | .await w next => .await w fun answer => attempt (next answer)

def ofExcept (outcome : Except Failure α) : Plan α := .ended outcome

/-- A directory for the time of the plan. It is given back however the plan ends; a failure to do so is the
outcome then. -/
def inDirectory (body : String → Plan α) : Plan α := do
  let directory ← perform .acquire
  let outcome ← attempt (body directory)
  perform (.release directory)
  ofExcept outcome

end Plan
end AsmScope
