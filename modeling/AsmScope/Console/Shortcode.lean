import AsmScope.Console.Pictures
import AsmScope.Console.Widths
import AsmScope.Text.Blank
import AsmScope.Text.Find
import AsmScope.Text.Letter

/-! A picture's name between two colons is shown as the picture. The name runs to the next colon and holds no
blank; its case does not matter, and it may end in the wish to see the picture as text or in colour. What names
no picture stays as it is, and its second colon begins no other name. -/

namespace AsmScope.Console
open AsmScope.Text

def pairUp : List (List Char) → List (List Char × List Char)
  | name :: glyph :: rest => (name, glyph) :: pairUp rest
  | _ => []

def wordsIn (lines : List String) : List (List Char) := lines.flatMap fun line => blankWords line.toList

def pictures : List (List Char × List Char) := pairUp (wordsIn pictureWords)

def countries : List (List Char × List Char) := pairUp (wordsIn countryWords)

def toned : List (List Char) := wordsIn tonedWords

def flagLetter (c : Char) : Char := Char.ofNat (0x1F1E6 + (c.toNat - 'A'.toNat))

def flag? (name : List Char) : Option (List Char) := (countries.lookup name).map fun letters => letters.map flagLetter

def tones : List (List Char × Char) :=
  [("_light_skin_tone".toList, Char.ofNat 0x1F3FB), ("_medium-light_skin_tone".toList, Char.ofNat 0x1F3FC),
    ("_medium_skin_tone".toList, Char.ofNat 0x1F3FD), ("_medium-dark_skin_tone".toList, Char.ofNat 0x1F3FE),
    ("_dark_skin_tone".toList, Char.ofNat 0x1F3FF)]

def textVariant : Char := Char.ofNat 0xFE0E

def before? (ending s : List Char) : Option (List Char) :=
  if ending.isSuffixOf s then some (s.take (s.length - ending.length)) else none

/-- The tone follows the first character and takes the place of a wish for colour. -/
def withTone (tone : Char) : List Char → List Char
  | [] => []
  | c :: r => c :: tone :: r.dropWhile (· == colourVariant)

def toned? (name : List Char) : Option (List Char) :=
  tones.findSome? fun (ending, tone) =>
    (before? ending name).bind fun base =>
      if toned.contains base then (pictures.lookup base).map (withTone tone) else none

def flagName : List Char := "flag_for_".toList

def picture? (name : List Char) : Option (List Char) :=
  (pictures.lookup name).or <| (flag? name).or <| ((after? flagName name).bind flag?).or (toned? name)

def variants : List (List Char × Char) :=
  [("-emoji".toList, colourVariant), ("-text".toList, textVariant)]

def splitVariant (s : List Char) : List Char × List Char :=
  match variants.findSome? fun (ending, mark) => (before? ending s).map fun name => (name, [mark]) with
  | some found => found
  | none => (s, [])

def shown? (code : List Char) : Option (List Char) :=
  let (name, mark) := splitVariant code
  (picture? (lowerCase name)).map (· ++ mark)

def upToColon : List Char → Option (List Char)
  | [] => none
  | c :: r => if c = ':' then some [] else if isBlank c then none else (upToColon r).map (c :: ·)

/-- The number counts characters that are still to be passed over. -/
def replaceCodesFrom : Nat → List Char → List Char
  | _, [] => []
  | passed + 1, _ :: r => replaceCodesFrom passed r
  | 0, c :: r =>
    if c = ':' then
      match upToColon r with
      | some code =>
        (shown? code).getD (':' :: code ++ [':']) ++ replaceCodesFrom (code.length + 1) r
      | none => c :: replaceCodesFrom 0 r
    else c :: replaceCodesFrom 0 r

def replaceCodes (s : List Char) : List Char := replaceCodesFrom 0 s

end AsmScope.Console
