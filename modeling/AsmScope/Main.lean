import AsmScope.Cli.Session
import AsmScope.Config.Load
import AsmScope.Document.JsonReader

/-! The program of the command line. The first line of its input describes the machine as a JSON table: the texts
of its files, the variables, the commands that are found and the tools that can be launched. What follows is the
standard input of the command. -/

namespace AsmScope.Program
open AsmScope.Cli

def texts (machine : Value) (key : String) : List (String × String) :=
  match machine.field? key with
  | some (.table fields) => fields.filterMap fun field =>
      match field.2 with
      | .string s => some (field.1, s)
      | _ => none
  | _ => []

def rules (machine : Value) : List Rule :=
  match machine.field? "tools" with
  | some (.list items) => items.map Rule.ofValue
  | _ => []

def files (machine : Value) : FileTree := .ofFiles Machine.startTime (texts machine "files")

def surroundings (machine : Value) : Config.Surroundings :=
  let given := texts machine "variables"
  ⟨files machine, given, (given.lookup "HOME").getD "/root", "user.toml"⟩

def desk (machine : Value) (config : AppConfig) (stdin : String) : Desk :=
  ⟨config, HostCommand.all ((machine.field? "commands").getD .null), rules machine, files machine, stdin⟩

def ending (machine : Value) (stdin : String) (words : List String) : Ending :=
  match Errand.read words with
  | none => .ofUsage
  | some errand =>
    match Config.load (surroundings machine) errand.configuration with
    | .error _ => .crashed []
    | .ok config => (desk machine config stdin).perform errand

def outputText : Output → String
  | .text s => s
  | .table lines => String.join (lines.map fun line => line ++ "\n")
  | .served _ => ""

partial def readAll (input : IO.FS.Stream) (before : String) : IO String := do
  let line ← input.getLine
  if line.isEmpty then return before
  readAll input (before ++ line)

end AsmScope.Program

def main (words : List String) : IO UInt32 := do
  let input ← IO.getStdin
  let machine := (AsmScope.Json.read? (← input.getLine)).getD .null
  let stdin ← AsmScope.Program.readAll input ""
  let ending := AsmScope.Program.ending machine stdin words
  IO.print (AsmScope.Program.outputText ending.output)
  return UInt32.ofNat ending.code
