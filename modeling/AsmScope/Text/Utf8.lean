/-! Octets and text. Writing is UTF-8. Reading is lossy: each longest beginning of a character that
no octet can complete is read as one replacement character. The reader keeps a pending character and
takes one octet at a time, so it does not matter how the octets arrive. -/

namespace AsmScope.Text

abbrev Octets := List UInt8

def encode (s : List Char) : Octets := s.flatMap String.utf8EncodeChar

def replacement : Char := Char.ofNat 0xFFFD

/-- A character of which `missing` octets are still to come; the next one lies between `low` and `high`. -/
structure Pending where
  missing : Nat
  low : Nat
  high : Nat
  code : Nat
  deriving DecidableEq, Repr

def start (octet : Nat) : Option Char × Option Pending :=
  if octet < 0x80 then (some (Char.ofNat octet), none)
  else if octet < 0xC2 then (some replacement, none)
  else if octet < 0xE0 then (none, some ⟨1, 0x80, 0xBF, octet - 0xC0⟩)
  else if octet < 0xF0 then
    (none, some ⟨2, if octet = 0xE0 then 0xA0 else 0x80, if octet = 0xED then 0x9F else 0xBF, octet - 0xE0⟩)
  else if octet < 0xF5 then
    (none, some ⟨3, if octet = 0xF0 then 0x90 else 0x80, if octet = 0xF4 then 0x8F else 0xBF, octet - 0xF0⟩)
  else (some replacement, none)

def readOctet (pending : Option Pending) (octet : UInt8) : List Char × Option Pending :=
  let n := octet.toNat
  match pending with
  | none => ((start n).1.toList, (start n).2)
  | some p =>
    if p.low ≤ n ∧ n ≤ p.high then
      let code := p.code * 64 + n % 64
      if p.missing ≤ 1 then ([Char.ofNat code], none)
      else ([], some ⟨p.missing - 1, 0x80, 0xBF, code⟩)
    else (replacement :: (start n).1.toList, (start n).2)

def decodeFrom : Option Pending → Octets → List Char
  | none, [] => []
  | some _, [] => [replacement]
  | pending, octet :: r => (readOctet pending octet).1 ++ decodeFrom (readOctet pending octet).2 r

def decode (octets : Octets) : List Char := decodeFrom none octets

def decoded (octets : Octets) : String := String.ofList (decode octets)

def encoded (s : String) : Octets := encode s.toList

end AsmScope.Text
