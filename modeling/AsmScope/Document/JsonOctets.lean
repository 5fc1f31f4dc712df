import AsmScope.Document.JsonReader
import AsmScope.Text.Utf8

/-! JSON as octets. A text begins with a character that takes one octet of its code unit, so zeros among the first
four octets tell how long the units are and in which order their octets come. -/

namespace AsmScope.Json
open AsmScope.Text

inductive Encoding where
  | utf8
  | utf16 (bigFirst : Bool)
  | utf32 (bigFirst : Bool)
  deriving DecidableEq, Repr

namespace Encoding

def ofOctets (octets : Octets) : Encoding :=
  match octets with
  | [a, b] => if a = 0 then .utf16 true else if b = 0 then .utf16 false else .utf8
  | a :: b :: c :: d :: _ =>
    if a = 0 then if b = 0 then .utf32 true else .utf16 true
    else if b = 0 then if c = 0 ∧ d = 0 then .utf32 false else .utf16 false
    else .utf8
  | _ => .utf8

def unitOf (bigFirst : Bool) (octets : Octets) : Nat :=
  (if bigFirst then octets else octets.reverse).foldl (fun n octet => n * 256 + octet.toNat) 0

def units16 (bigFirst : Bool) : Octets → Option (List Nat)
  | [] => some []
  | a :: b :: r => (units16 bigFirst r).map (unitOf bigFirst [a, b] :: ·)
  | _ => none

def units32 (bigFirst : Bool) : Octets → Option (List Nat)
  | [] => some []
  | a :: b :: c :: d :: r => (units32 bigFirst r).map (unitOf bigFirst [a, b, c, d] :: ·)
  | _ => none

/-- A surrogate that has no partner is read as a replacement. -/
def ofUnits16 : List Nat → List Char
  | [] => []
  | [n] => [if 0xD800 ≤ n ∧ n < 0xE000 then replacement else Char.ofNat n]
  | n :: m :: r =>
    if 0xD800 ≤ n ∧ n < 0xDC00 ∧ 0xDC00 ≤ m ∧ m < 0xE000 then
      Char.ofNat (0x10000 + (n - 0xD800) * 0x400 + (m - 0xDC00)) :: ofUnits16 r
    else (if 0xD800 ≤ n ∧ n < 0xE000 then replacement else Char.ofNat n) :: ofUnits16 (m :: r)

def ofUnits32 (units : List Nat) : Option (List Char) :=
  if units.all (· < 0x110000) then
    some (units.map fun n => if 0xD800 ≤ n ∧ n < 0xE000 then replacement else Char.ofNat n)
  else none

def byteOrderMark : Octets := [0xEF, 0xBB, 0xBF]

def text? (octets : Octets) : Option (List Char) :=
  match ofOctets octets with
  | .utf8 =>
    some (decode (if byteOrderMark.isPrefixOf octets then octets.drop byteOrderMark.length else octets))
  | .utf16 bigFirst => (units16 bigFirst octets).map ofUnits16
  | .utf32 bigFirst => (units32 bigFirst octets).bind ofUnits32

end Encoding

def readOctets? (octets : Octets) : Option Value := (Encoding.text? octets).bind readChars?

end AsmScope.Json
