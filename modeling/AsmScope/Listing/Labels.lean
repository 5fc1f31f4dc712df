import AsmScope.Listing.Kind

/-! Which labels of a listing are used. Instructions, and declarations of globals and functions, use a label
outright. What a piece of data refers to is used only if the label that owns the data is, and such steps are
followed ten times at most. Other directives count where directives are shown. -/

namespace AsmScope.Listing
open AsmScope.Text

abbrev Name := List Char

def isReferenceStart (c : Char) : Bool := isAsciiLetter c || c == '_' || c == '.'

def isReferenceChar (c : Char) : Bool := isReferenceStart c || isAsciiDigit c || c == '$'

def references : List Char → List Name
  | [] => []
  | c :: r =>
    if isReferenceStart c then
      (c :: r.takeWhile isReferenceChar) :: references (r.dropWhile isReferenceChar)
    else references r
termination_by s => s.length
decreasing_by
  · have := (List.dropWhile_sublist isReferenceChar (l := r)).length_le
    simp only [List.length_cons]; omega
  · simp

def name? : List Char → Option (Name × List Char)
  | [] => none
  | c :: r =>
    if isReferenceStart c then some (c :: r.takeWhile isReferenceChar, r.dropWhile isReferenceChar) else none

def afterGlobal? : List Char → Option (List Char)
  | '.' :: 'g' :: 'l' :: 'o' :: 'b' :: 'a' :: 'l' :: r => some r
  | '.' :: 'g' :: 'l' :: 'o' :: 'b' :: 'l' :: r => some r
  | _ => none

def global? (line : List Char) : Option Name :=
  (afterGlobal? (dropBlank line)).bind fun r => (name? (dropBlank r)).map Prod.fst

def afterType? : List Char → Option (List Char)
  | '.' :: 't' :: 'y' :: 'p' :: 'e' :: r => some r
  | _ => none

def functionMark : List Char := "function".toList

def isFunctionMark (s : List Char) : Bool :=
  match s with
  | c :: r => (c == '@' || c == '%') && functionMark.isPrefixOf r && (r.drop functionMark.length).all isBlank
  | [] => false

def function? (line : List Char) : Option Name :=
  (afterType? (dropBlank line)).bind fun r =>
    (name? (dropBlank r)).bind fun (name, r) =>
      match dropBlank r with
      | ',' :: r => if isFunctionMark (dropBlank r) then some name else none
      | _ => none

def declared? (line : List Char) : Option Name := (global? line).or (function? line)

/-- Outright uses, and weak ones as pairs of the owner and the name it refers to. -/
structure Usage where
  direct : List Name
  weak : List (Name × Name)
  deriving DecidableEq, Repr

def nextOwner (owner : Option Name) (line : List Char) : Option Name := (label? line).or owner

def lineUsage (hideDirectives : Bool) (owner : Option Name) (line : List Char) : Usage :=
  let named := (declared? line).toList
  let refs := references (afterLabel line)
  match classify line with
  | .blank | .comment => ⟨[], []⟩
  | .label => ⟨named, []⟩
  | .data => ⟨named, owner.toList.flatMap fun o => refs.map (o, ·)⟩
  | .directive => ⟨if hideDirectives then named else named ++ refs, []⟩
  | .instruction => ⟨if hasOpcode line then named ++ refs else named, []⟩

/-- Blank lines and comments own nothing and change no owner. -/
def ownerAfter (owner : Option Name) (line : List Char) : Option Name :=
  match classify line with
  | .blank | .comment => owner
  | _ => nextOwner owner line

def usageFrom (hideDirectives : Bool) : Option Name → List (List Char) → Usage
  | _, [] => ⟨[], []⟩
  | owner, line :: rest =>
    let owner := ownerAfter owner line
    let here := lineUsage hideDirectives owner line
    let later := usageFrom hideDirectives owner rest
    ⟨here.direct ++ later.direct, here.weak ++ later.weak⟩

def fresh (weak : List (Name × Name)) (used : List Name) : List Name :=
  ((weak.filter fun (owner, name) => used.contains owner && !used.contains name).map Prod.snd).eraseDups

def spread (weak : List (Name × Name)) : Nat → List Name → List Name
  | 0, used => used
  | n + 1, used =>
    match fresh weak used with
    | [] => used
    | names => spread weak n (used ++ names)

def weakSteps : Nat := 10

def usedLabels (hideDirectives : Bool) (lines : List (List Char)) : List Name :=
  let usage := usageFrom hideDirectives none lines
  spread usage.weak weakSteps usage.direct.eraseDups

end AsmScope.Listing
