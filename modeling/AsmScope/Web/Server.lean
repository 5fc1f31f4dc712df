import AsmScope.Path
import AsmScope.Remote
import AsmScope.Text.Numeral
import AsmScope.Text.Quoted

/-! Starting the server. Host, port and the debugging switch are set by variables. A port that is no number stops
the start before anything has begun; whatever happens later, what was started is closed again. -/

namespace AsmScope.Web
open AsmScope.Text

structure ServerSettings where
  host : String
  port : Int
  debug : Bool
  deriving DecidableEq, Repr

inductive ServerFailure where
  | homeIsUnknown
  | portIsNoNumber (given : String)
  | portIsTooLong (digits : Nat)
  | crashed (message : String)
  deriving DecidableEq, Repr

def shownLength : Nat := 200

def ServerFailure.message : ServerFailure → String
  | .homeIsUnknown => Path.unknownHome
  | .portIsNoNumber given => "invalid literal for int() with base 10: " ++ String.ofList ((quote given.toList).take shownLength)
  | .portIsTooLong digits => tooManyDigits digits
  | .crashed message => message

namespace ServerSettings

def hostVariable : String := "CEXPLORER_WEB_HOST"

def portVariable : String := "CEXPLORER_WEB_PORT"

def debugVariable : String := "CEXPLORER_WEB_DEBUG"

def ofEnvironment (environment : List (String × String)) : Except ServerFailure ServerSettings :=
  let port := (environment.lookup portVariable).getD "10240"
  if maxDigits < leadingDigits port then .error (.portIsTooLong (leadingDigits port))
  else
    match readInteger? port with
    | none => .error (.portIsNoNumber port)
    | some n =>
      .ok ⟨(environment.lookup hostVariable).getD "127.0.0.1", n,
        Remote.lower ((environment.lookup debugVariable).getD "false") == "true"⟩

end ServerSettings

/-- What became of a server: the configuration it was told to read, the settings it ran with if it got so far,
and why it ended if not by itself. -/
structure ServerRun where
  configuration : Option String
  settings : Option ServerSettings
  failure : Option ServerFailure
  deriving DecidableEq, Repr

namespace ServerRun

def pathOf (home : String) (given : Option String) : Except ServerFailure (Option String) :=
  match given.filter fun path => !path.isEmpty with
  | none => .ok none
  | some path =>
    match Path.expanded? home path with
    | some path => .ok (some path)
    | none => .error .homeIsUnknown

/-- The crash is what ends the server, if it does not end by itself. -/
def run (home : String) (given : Option String) (environment : List (String × String)) (crash : Option String) :
    ServerRun :=
  match pathOf home given with
  | .error failure => ⟨none, none, some failure⟩
  | .ok path =>
    match ServerSettings.ofEnvironment environment with
    | .error failure => ⟨path, none, some failure⟩
    | .ok settings => ⟨path, some settings, crash.map .crashed⟩

def started (r : ServerRun) : Nat := if r.settings.isSome then 1 else 0

def closed (r : ServerRun) : Nat := r.started

end ServerRun
end AsmScope.Web
