/-! Launches of tools: a program with its arguments, or a line for the shell, with a budget of time and of
octets. What comes of a launch is an output, or the reason why nothing could be started. -/

namespace AsmScope

inductive ToolCommand where
  | exec (program : String) (args : List String)
  | shell (line : String)
  deriving DecidableEq, Repr

def ToolCommand.label : ToolCommand → String
  | .exec program _ => program
  | .shell line => line

structure Budget where
  timeoutMs : Nat
  maxOutput : Nat
  deriving DecidableEq, Repr

structure Launch where
  command : ToolCommand
  directory : Option String
  environment : Option (List (String × String))
  budget : Budget
  deriving DecidableEq, Repr

inductive SystemError where
  | numbered (code : Int) (text : String)
  | worded (message : String)
  deriving DecidableEq, Repr

namespace SystemError

def notFound : Int := 2

def standardTexts : List (Int × String) :=
  [(1, "Operation not permitted"), (2, "No such file or directory"), (7, "Argument list too long"),
    (8, "Exec format error"), (11, "Resource temporarily unavailable"), (12, "Cannot allocate memory"),
    (13, "Permission denied"), (20, "Not a directory"), (24, "Too many open files"), (26, "Text file busy")]

def standardText (code : Int) : String :=
  (standardTexts.lookup code).getD ("Unknown error " ++ toString code)

def reason : SystemError → String
  | .numbered code text => if text.isEmpty then "[Errno " ++ toString code ++ "] " else text
  | .worded message => message

end SystemError

structure ToolOutput where
  code : Option Int
  stdout : String
  stderr : String
  timedOut : Bool
  stdoutTruncated : Bool
  stderrTruncated : Bool
  deriving DecidableEq, Repr

def ToolOutput.okToCache (o : ToolOutput) : Bool := !o.timedOut

def ToolOutput.truncated (o : ToolOutput) : Bool := o.stdoutTruncated || o.stderrTruncated

end AsmScope
