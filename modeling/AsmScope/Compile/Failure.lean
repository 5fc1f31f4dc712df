import AsmScope.Files.Fault
import AsmScope.Settings.Problem
import AsmScope.Shell.Words
import AsmScope.Text.Numeral
import AsmScope.Text.Quoted

/-! Why a request has no result. A request is rejected for its options, its includes, its compiler or because
a program could not be started; it is malformed if its data cannot be read; it fails where a file cannot be made,
written or read, or where what a tool has written holds a numeral that is too long; it may be cancelled; and a fault is
anything else that goes wrong. -/

namespace AsmScope

inductive Failure where
  | unreadableOptions (given : String) (cause : Shell.SplitError)
  | badOptions (options : List String)
  | badIncludes (lines : List Nat)
  | remoteOnly (compiler : String)
  | notStarted (program reason : String)
  | unknownCompiler (compiler : String)
  | malformed (problems : List Problem)
  | notIterable (kind : String)
  | file (e : FileError)
  | longNumeral (e : Text.LongNumeral)
  | fault (message : String)
  | cancelled
  deriving DecidableEq, Repr

namespace Failure

def includesMessage (lines : List Nat) : String :=
  String.intercalate "\n" (lines.map fun n =>
    "<stdin>:" ++ toString n ++ ":1: no absolute or relative includes please")

def message : Failure → String
  | .unreadableOptions given cause =>
    "Bad options: unable to parse " ++ Text.quoted given ++ " (" ++ cause.message ++ ")"
  | .badOptions options => "Bad options: " ++ String.intercalate ", " options
  | .badIncludes lines => includesMessage lines
  | .remoteOnly compiler => "Compiler " ++ compiler ++ " is only available remotely"
  | .notStarted program reason => "Failed to execute " ++ program ++ ": " ++ reason
  | .unknownCompiler compiler => "Unknown compiler " ++ Text.quoted compiler
  | .malformed problems => (problems.head?.map fun p => p.fault.message).getD ""
  | .notIterable kind => "'" ++ kind ++ "' object is not iterable"
  | .file e => e.message
  | .longNumeral e => e.message
  | .fault message => message
  | .cancelled => ""

def isRejection : Failure → Bool
  | .unreadableOptions .. | .badOptions _ | .badIncludes _ | .remoteOnly _ | .notStarted .. |
    .unknownCompiler _ => true
  | _ => false

end Failure
end AsmScope
