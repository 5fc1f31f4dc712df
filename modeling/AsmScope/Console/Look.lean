import AsmScope.Console.Colours
import AsmScope.Text.Find
import AsmScope.Text.Letter
import AsmScope.Text.Numeral

/-! The look that a tag asks for: attributes that are set or unset, a colour, a background and a link. Looks of the
same effect have the same name: the attributes in their order, then the colours, then the link. Words that describe
no look are a name as they are, in lower case. -/

namespace AsmScope.Console
open AsmScope.Text

inductive Attribute where
  | bold
  | dim
  | italic
  | underline
  | blink
  | fastBlink
  | reverse
  | conceal
  | strike
  | doubleUnderline
  | frame
  | encircle
  | overline
  deriving DecidableEq, Repr

namespace Attribute

def all : List Attribute :=
  [bold, dim, italic, underline, blink, fastBlink, reverse, conceal, strike, doubleUnderline, frame, encircle,
    overline]

def word : Attribute → String
  | bold => "bold"
  | dim => "dim"
  | italic => "italic"
  | underline => "underline"
  | blink => "blink"
  | fastBlink => "blink2"
  | reverse => "reverse"
  | conceal => "conceal"
  | strike => "strike"
  | doubleUnderline => "underline2"
  | frame => "frame"
  | encircle => "encircle"
  | overline => "overline"

def ofShort? : String → Option Attribute
  | "b" => some bold
  | "d" => some dim
  | "i" => some italic
  | "u" => some underline
  | "r" => some reverse
  | "c" => some conceal
  | "s" => some strike
  | "uu" => some doubleUnderline
  | "o" => some overline
  | _ => none

def ofWord? (s : String) : Option Attribute := (all.find? fun a => a.word = s).or (ofShort? s)

end Attribute

/-- Why words are no look: one of them says nothing, or a part of a colour that has to be a number is empty. -/
inductive LookFault where
  | unknown
  | noNumber
  deriving DecidableEq, Repr

def between? (opening s : List Char) : Option (List Char) :=
  (after? opening s).bind fun r => if r.getLast? = some ')' then some r.dropLast else none

def isColourCode (s : List Char) : Bool :=
  match s with
  | '#' :: digits => digits.length == 6 && digits.all isHexDigit
  | _ => false

def checkParts (s : List Char) : Except LookFault Unit :=
  let parts := s.splitOn ','
  if s.isEmpty || parts.length != 3 || !(s.all fun c => isDigit c || c == ',') then .error .unknown
  else if parts.any List.isEmpty then .error .noNumber
  else if parts.all fun part => decimalValue part < 256 then .ok ()
  else .error .unknown

def isNumbered (s : List Char) : Bool :=
  !s.isEmpty && s.length ≤ 3 && s.all isAsciiDigit && decimalValue s < 256

def checkColour (s : List Char) : Except LookFault Unit :=
  if s = "default".toList || namedColours.contains s || isColourCode s then .ok ()
  else
    match between? "color(".toList s, between? "rgb(".toList s with
    | some number, _ => if isNumbered number then .ok () else .error .unknown
    | none, some parts => checkParts parts
    | none, none => .error .unknown

def colour (word : List Char) : Except LookFault (List Char) :=
  (checkColour (lowerCase word)).map fun _ => lowerCase word

structure Look where
  attributes : List (Attribute × Bool) := []
  colour : Option (List Char) := none
  background : Option (List Char) := none
  link : Option (List Char) := none
  deriving DecidableEq, Repr

namespace Look

/-- What was said last of an attribute counts. -/
def say (look : Look) (a : Attribute) (isSet : Bool) : Look :=
  { look with attributes := (a, isSet) :: look.attributes }

def attributeNamed (word : List Char) : Except LookFault Attribute :=
  match Attribute.ofWord? (String.ofList word) with
  | some a => .ok a
  | none => .error .unknown

def sayWord (look : Look) (word : List Char) : Except LookFault Look :=
  match Attribute.ofWord? (String.ofList (lowerCase word)) with
  | some a => .ok (look.say a true)
  | none => (Console.colour word).map fun c => { look with colour := some c }

def sayOf (look : Look) (word next : List Char) : Except LookFault Look :=
  match String.ofList word with
  | "on" => (Console.colour next).map fun c => { look with background := some c }
  | "not" => (attributeNamed next).map fun a => look.say a false
  | _ => .ok { look with link := some next }

def speaksOfNext (word : List Char) : Bool := ["on", "not", "link"].contains (String.ofList (lowerCase word))

def readFrom (look : Look) : List (List Char) → Except LookFault Look
  | [] => .ok look
  | [word] => if speaksOfNext word then .error .unknown else look.sayWord word
  | word :: next :: rest =>
    if speaksOfNext word then (look.sayOf (lowerCase word) next).bind (readFrom · rest)
    else (look.sayWord word).bind (readFrom · (next :: rest))

def read (s : List Char) : Except LookFault Look :=
  if trim s = "none".toList then .ok {} else readFrom {} (blankWords s)

def attributeWords (look : Look) (a : Attribute) : List String :=
  match look.attributes.lookup a with
  | some true => [a.word]
  | some false => ["not " ++ a.word]
  | none => []

def words (look : Look) : List String :=
  Attribute.all.flatMap look.attributeWords ++ look.colour.toList.map String.ofList
    ++ (look.background.toList.map fun c => "on " ++ String.ofList c)
    ++ (look.link.toList.map fun address => "link " ++ String.ofList address)

def name (look : Look) : String :=
  if look.words.isEmpty then "none" else String.intercalate " " look.words

/-- The name of the look that some words describe. A part of a colour that is no number has none. -/
def nameOf? (s : List Char) : Option String :=
  match read s with
  | .ok look => some look.name
  | .error .unknown => some (String.ofList (lowerCase (trim s)))
  | .error .noNumber => none

end Look
end AsmScope.Console
