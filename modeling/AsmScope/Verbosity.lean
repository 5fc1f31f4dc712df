/-! How much is logged. A verbosity names a level; a name that is not known is taken for the middle one. Requests
to the server are never logged below the level of warnings. -/

namespace AsmScope

inductive LogLevel where
  | debug
  | info
  | warning
  deriving DecidableEq, Repr

namespace LogLevel

def rank : LogLevel → Nat
  | debug => 10
  | info => 20
  | warning => 30

def name : LogLevel → String
  | debug => "DEBUG"
  | info => "INFO"
  | warning => "WARNING"

def ofVerbosity (verbosity : String) : LogLevel :=
  match verbosity with
  | "quiet" => warning
  | "verbose" => debug
  | _ => info

def higher (a b : LogLevel) : LogLevel := if a.rank ≤ b.rank then b else a

def forRequests (level : LogLevel) : LogLevel := higher level warning

end LogLevel
end AsmScope
