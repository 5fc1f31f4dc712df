import AsmScope.Deflate.Code
import AsmScope.Text.Utf8

/-! Unpacking compressed data. The data are blocks, each stored as it is or written in two codes: one for octets and
lengths, one for the distances from which a length of octets is repeated. Data that stop early are no fault; what was
unpacked until then counts. -/

namespace AsmScope.Deflate
open AsmScope.Text

/-- What was unpacked, last octet first, and how it ended: with the bits that are left, or with a stop. -/
structure Unpacked where
  output : Octets
  ending : Except Stop Bits
  deriving Repr

def bitsOf (octet : UInt8) : Bits := (List.range 8).map fun n => octet.toNat.testBit n

def toBits (octets : Octets) : Bits := octets.flatMap bitsOf

def align (bits : Bits) : Bits := bits.drop (bits.length % 8)

structure Choice where
  base : Nat
  extra : Nat
  deriving DecidableEq, Repr

def choices : List Nat → List Nat → List Choice := List.zipWith Choice.mk

def lengthChoices : List Choice :=
  choices [3, 4, 5, 6, 7, 8, 9, 10, 11, 13, 15, 17, 19, 23, 27, 31, 35, 43, 51, 59, 67, 83, 99, 115, 131, 163, 195,
      227, 258]
    [0, 0, 0, 0, 0, 0, 0, 0, 1, 1, 1, 1, 2, 2, 2, 2, 3, 3, 3, 3, 4, 4, 4, 4, 5, 5, 5, 5, 0]

def distanceChoices : List Choice :=
  choices [1, 2, 3, 4, 5, 7, 9, 13, 17, 25, 33, 49, 65, 97, 129, 193, 257, 385, 513, 769, 1025, 1537, 2049, 3073,
      4097, 6145, 8193, 12289, 16385, 24577]
    [0, 0, 0, 0, 1, 1, 2, 2, 3, 3, 4, 4, 5, 5, 6, 6, 7, 7, 8, 8, 9, 9, 10, 10, 11, 11, 12, 12, 13, 13]

def chosen (among : List Choice) (f : Fault) (symbol : Option Nat) (bits : Bits) : Except Stop (Nat × Bits) :=
  match symbol.bind fun n => among[n]? with
  | none => .error (.fault f)
  | some choice => (number choice.extra bits).map fun (more, bits) => (choice.base + more, bits)

def repeatOctets (distance : Nat) : Nat → Octets → Octets
  | 0, out => out
  | n + 1, out => repeatOctets distance n (out.getD (distance - 1) 0 :: out)

structure Codes where
  literals : Code
  distances : Code
  deriving DecidableEq, Repr

def blockEnd : Nat := 256

def repetition (codes : Codes) (symbol : Nat) (bits : Bits) : Except Stop (Nat × Nat × Bits) := do
  let (length, bits) ← chosen lengthChoices .literal (some (symbol - (blockEnd + 1))) bits
  let (symbol, bits) ← codes.distances.symbol bits
  let (distance, bits) ← chosen distanceChoices .distance symbol bits
  return (length, distance, bits)

/-- The fuel bounds the number of symbols, each of which takes a bit. -/
def codedBlock (codes : Codes) : Nat → Octets → Bits → Unpacked
  | 0, out, _ => ⟨out, .error .cutOff⟩
  | fuel + 1, out, bits =>
    match codes.literals.symbol bits with
    | .error stop => ⟨out, .error stop⟩
    | .ok (none, _) => ⟨out, .error (.fault .literal)⟩
    | .ok (some symbol, bits) =>
      if symbol < blockEnd then codedBlock codes fuel (UInt8.ofNat symbol :: out) bits
      else if symbol = blockEnd then ⟨out, .ok bits⟩
      else
        match repetition codes symbol bits with
        | .error stop => ⟨out, .error stop⟩
        | .ok (length, distance, bits) =>
          if out.length < distance then ⟨out, .error (.fault .tooFar)⟩
          else codedBlock codes fuel (repeatOctets distance length out) bits

def copyOctets : Nat → Octets → Bits → Unpacked
  | 0, out, bits => ⟨out, .ok bits⟩
  | n + 1, out, bits =>
    match number 8 bits with
    | .error stop => ⟨out, .error stop⟩
    | .ok (octet, bits) => copyOctets n (UInt8.ofNat octet :: out) bits

/-- The length of a stored block is given twice, the second time with every bit turned. -/
def storedBlock (out : Octets) (bits : Bits) : Unpacked :=
  match number 32 (align bits) with
  | .error stop => ⟨out, .error stop⟩
  | .ok (lengths, bits) =>
    if lengths % 65536 + lengths / 65536 = 65535 then copyOctets (lengths % 65536) out bits
    else ⟨out, .error (.fault .storedLength)⟩

def fixedCodes : Codes :=
  ⟨.ofLengths (List.replicate 144 8 ++ List.replicate 112 9 ++ List.replicate 24 7 ++ List.replicate 8 8),
    .ofLengths (List.replicate 32 5)⟩

def lengthOrder : List Nat := [16, 17, 18, 0, 8, 7, 9, 6, 10, 5, 11, 4, 12, 3, 13, 2, 14, 1, 15]

def numbers (size : Nat) : Nat → Bits → Except Stop (List Nat × Bits)
  | 0, bits => .ok ([], bits)
  | n + 1, bits => do
    let (first, bits) ← number size bits
    let (rest, bits) ← numbers size n bits
    return (first :: rest, bits)

def inOrder (given : List Nat) : List Nat :=
  (List.range lengthOrder.length).map fun symbol => ((lengthOrder.zip given).lookup symbol).getD 0

/-- Lengths that one symbol stands for: itself, the last one again, or zeros. A code without words gives zeros. -/
def lengthsFor (symbol : Option Nat) (last : Option Nat) (bits : Bits) : Except Stop (List Nat × Bits) :=
  let again := fun (size base length : Nat) =>
    (number size bits).map fun (more, bits) => (List.replicate (base + more) length, bits)
  match symbol.getD 0 with
  | 16 =>
    match last with
    | none => (number 2 bits).bind fun _ => .error (.fault .repetition)
    | some length => again 2 3 length
  | 17 => again 3 3 0
  | 18 => again 7 11 0
  | length => .ok ([length], bits)

/-- The lengths of the two codes one after the other, of which the last comes first. -/
def codeLengths (code : Code) (count : Nat) : Nat → List Nat → Bits → Except Stop (List Nat × Bits)
  | 0, _, _ => .error .cutOff
  | fuel + 1, lengths, bits =>
    if count ≤ lengths.length then .ok (lengths.reverse, bits)
    else do
      let (symbol, bits) ← code.symbol bits
      let (more, bits) ← lengthsFor symbol lengths.head? bits
      if count < lengths.length + more.length then .error (.fault .repetition)
      codeLengths code count fuel (more.reverse ++ lengths) bits

def require (holds : Bool) (f : Fault) : Except Stop Unit := if holds then .ok () else .error (.fault f)

def ownCodes (bits : Bits) : Except Stop (Codes × Bits) := do
  let (sizes, bits) ← number 14 bits
  let literalCount := sizes % 32 + 257
  let distanceCount := sizes / 32 % 32 + 1
  require (literalCount ≤ 286 && distanceCount ≤ 30) .symbolCount
  let (given, bits) ← numbers 3 (sizes / 1024 + 4) bits
  require (Code.isUsable false (inOrder given)) .lengthCode
  let count := literalCount + distanceCount
  let (lengths, bits) ← codeLengths (.ofLengths (inOrder given)) count (count + 1) [] bits
  let literals := lengths.take literalCount
  let distances := lengths.drop literalCount
  require (literals.getD blockEnd 0 != 0) .noBlockEnd
  require (Code.isUsable true literals) .literalCode
  require (Code.isUsable true distances) .distanceCode
  return (⟨.ofLengths literals, .ofLengths distances⟩, bits)

def block (kind : Nat) (out : Octets) (bits : Bits) : Unpacked :=
  match kind with
  | 0 => storedBlock out bits
  | 1 => codedBlock fixedCodes (bits.length + 1) out bits
  | 2 =>
    match ownCodes bits with
    | .error stop => ⟨out, .error stop⟩
    | .ok (codes, bits) => codedBlock codes (bits.length + 1) out bits
  | _ => ⟨out, .error (.fault .blockType)⟩

def blocks : Nat → Octets → Bits → Unpacked
  | 0, out, _ => ⟨out, .error .cutOff⟩
  | fuel + 1, out, bits =>
    match number 3 bits with
    | .error stop => ⟨out, .error stop⟩
    | .ok (head, bits) =>
      let unpacked := block (head / 2) out bits
      match unpacked.ending with
      | .error _ => unpacked
      | .ok rest => if head % 2 = 1 then unpacked else blocks fuel unpacked.output rest

def unpackBare (octets : Octets) : Except Fault Octets :=
  let unpacked := blocks (octets.length * 8 + 1) [] (toBits octets)
  match unpacked.ending with
  | .error (.fault f) => .error f
  | _ => .ok unpacked.output.reverse

def checksum (octets : Octets) : Nat :=
  let (low, high) := octets.foldl (fun (low, high) octet =>
    let low := (low + octet.toNat) % 65521
    (low, (high + low) % 65521)) (1, 0)
  high * 65536 + low

def isFrameHead (a b : Nat) : Bool := (a * 256 + b) % 31 == 0 && a % 16 == 8 && a / 16 ≤ 7

def namesDictionary (b : Nat) : Bool := b / 32 % 2 == 1

def endsSoundly (output : Octets) (bits : Bits) : Bool :=
  match numbers 8 4 (align bits) with
  | .ok (given, _) => given.foldl (fun n octet => n * 256 + octet) 0 == checksum output
  | .error _ => true

def unpackFramed? : Octets → Option Octets
  | a :: b :: r =>
    if !isFrameHead a.toNat b.toNat then none
    else if namesDictionary b.toNat then if r.length < 4 then some [] else none
    else
      let unpacked := blocks (r.length * 8 + 1) [] (toBits r)
      let output := unpacked.output.reverse
      match unpacked.ending with
      | .ok bits => if endsSoundly output bits then some output else none
      | .error .cutOff => some output
      | .error (.fault _) => none
  | _ => some []

def unpack (octets : Octets) : Except Fault Octets :=
  match unpackFramed? octets with
  | some output => .ok output
  | none => unpackBare octets

end AsmScope.Deflate
