import AsmScope.Cli.Arguments
import AsmScope.Document.Value
import AsmScope.Listing.Filters
import AsmScope.Path

/-! The commands of the command line: compiling one file, showing the compilers or the environment, serving, and
asking for help. A command line that is no command is a matter of usage. -/

namespace AsmScope.Cli

structure CompileOrder where
  source : String
  compiler : String
  options : String
  filters : Filters
  json : Bool
  deriving DecidableEq, Repr

inductive Command where
  | compile (order : CompileOrder)
  | compilers
  | environment
  | serve
  | help
  deriving DecidableEq, Repr

structure Errand where
  command : Command
  configuration : Option String
  deriving DecidableEq, Repr

namespace Errand

def flag (name : String) : OptionSpec := ⟨name, none, false⟩

def helpFlag : OptionSpec := flag "help"

def configOption : OptionSpec := ⟨"config", none, true⟩

def filterFlags : List String := ["directives", "labels", "comments", "binary", "intel", "trim"]

def compileOptions : List OptionSpec :=
  [⟨"compiler", some 'c', true⟩, ⟨"options", some 'o', true⟩] ++ filterFlags.map flag
    ++ [flag "json", configOption, helpFlag]

def filtersOf (a : Arguments) : Filters :=
  ⟨a.has "directives", a.has "labels", a.has "comments", a.has "binary", a.has "intel", a.has "trim"⟩

def orderOf (a : Arguments) : Option CompileOrder :=
  match a.positional, a.value? "compiler" with
  | [source], some compiler =>
    some ⟨Path.normal source, compiler, (a.value? "options").getD "", filtersOf a, a.has "json"⟩
  | _, _ => none

def help : Errand := ⟨.help, none⟩

/-- Whoever asks for help is helped, whatever else is missing. -/
def ofArguments (a : Arguments) (command : Option Command) : Option Errand :=
  if a.has "help" then some help else command.map fun c => ⟨c, (a.value? "config").map Path.normal⟩

def readCompile (words : List String) : Option Errand :=
  (Arguments.read compileOptions words).bind fun a => ofArguments a ((orderOf a).map .compile)

def readPlain (command : Command) (words : List String) : Option Errand :=
  (Arguments.read [configOption, helpFlag] words).bind fun a =>
    ofArguments a (if a.positional.isEmpty then some command else none)

def named (name : String) (words : List String) : Option Errand :=
  match name with
  | "compile" => readCompile words
  | "compilers" => readPlain .compilers words
  | "env" => readPlain .environment words
  | "serve" => readPlain .serve words
  | _ => none

/-- The words before the name of a command: nothing but wishes for help, up to two hyphens. What is left comes with
whether there was such a wish. -/
def passHelp : List String → Option (Bool × List String)
  | [] => some (false, [])
  | word :: rest =>
    if word = "--" then some (false, rest)
    else if isOptionWord word then
      if word = "--help" then (passHelp rest).map fun found => (true, found.2) else none
    else some (false, word :: rest)

def asksForHelp (words : List String) : Bool := ((passHelp words).map Prod.fst).getD false

def ofWords : List String → Option Errand
  | [] => none
  | name :: rest =>
    if isOptionWord name then if asksForHelp (name :: rest) then some help else none
    else named name rest

def read (words : List String) : Option Errand :=
  match passHelp words with
  | none => none
  | some (true, _) => some help
  | some (false, rest) => ofWords rest

end Errand
end AsmScope.Cli
