/-! The words of a command line. Words that begin with a hyphen are options, up to two hyphens alone; all others
are positional and may stand between options. A long option has its value after an equality sign or in the next
word, a short one in the rest of its word or in the next. A value may begin with a hyphen too. -/

namespace AsmScope.Cli

structure OptionSpec where
  long : String
  short : Option Char
  takesValue : Bool
  deriving DecidableEq, Repr

structure Arguments where
  options : List (String × String)
  positional : List String
  deriving DecidableEq, Repr

namespace Arguments

def empty : Arguments := ⟨[], []⟩

def addOption (name value : String) (a : Arguments) : Arguments := { a with options := (name, value) :: a.options }

def addWord (word : String) (a : Arguments) : Arguments := { a with positional := word :: a.positional }

def value? (a : Arguments) (name : String) : Option String := a.options.reverse.lookup name

def has (a : Arguments) (name : String) : Bool := (a.value? name).isSome

end Arguments

inductive OptionWord where
  | whole (name value : String)
  | needsValue (name : String)
  deriving DecidableEq, Repr

def splitValue (s : List Char) : List Char × Option (List Char) :=
  match s.dropWhile (· != '=') with
  | [] => (s, none)
  | _ :: value => (s.takeWhile (· != '='), some value)

def readLong (specs : List OptionSpec) (s : List Char) : Option OptionWord :=
  let (name, value) := splitValue s
  match specs.find? (fun spec => spec.long.toList == name), value with
  | none, _ => none
  | some spec, some v => if spec.takesValue then some (.whole spec.long (String.ofList v)) else none
  | some spec, none => some (if spec.takesValue then .needsValue spec.long else .whole spec.long "")

def readShort (specs : List OptionSpec) : List Char → Option OptionWord
  | [] => none
  | letter :: rest =>
    (specs.find? fun spec => spec.short == some letter).map fun spec =>
      if rest.isEmpty then .needsValue spec.long else .whole spec.long (String.ofList rest)

def readOption (specs : List OptionSpec) (word : String) : Option OptionWord :=
  match word.toList with
  | '-' :: '-' :: rest => readLong specs rest
  | '-' :: rest => readShort specs rest
  | _ => none

def isOptionWord (word : String) : Bool :=
  match word.toList with
  | '-' :: _ :: _ => true
  | _ => false

def Arguments.read (specs : List OptionSpec) : List String → Option Arguments
  | [] => some .empty
  | word :: rest =>
    if word = "--" then some ⟨[], rest⟩
    else if isOptionWord word then
      match readOption specs word with
      | none => none
      | some (.whole name value) => (read specs rest).map (addOption name value)
      | some (.needsValue name) =>
        match rest with
        | [] => none
        | value :: rest => (read specs rest).map (addOption name value)
    else (read specs rest).map (addWord word)

end AsmScope.Cli
