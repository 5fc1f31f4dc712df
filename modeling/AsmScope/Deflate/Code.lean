/-! Prefix codes that are given by the lengths of their words. Words of one length are numbered in the order of
their symbols, and shorter words come first, so counts by length and symbols by length say all. -/

namespace AsmScope.Deflate

abbrev Bits := List Bool

inductive Fault where
  | header
  | blockType
  | storedLength
  | symbolCount
  | lengthCode
  | repetition
  | noBlockEnd
  | literalCode
  | distanceCode
  | literal
  | distance
  | tooFar
  deriving DecidableEq, Repr

def Fault.message : Fault → String
  | .header => "incorrect header check"
  | .blockType => "invalid block type"
  | .storedLength => "invalid stored block lengths"
  | .symbolCount => "too many length or distance symbols"
  | .lengthCode => "invalid code lengths set"
  | .repetition => "invalid bit length repeat"
  | .noBlockEnd => "invalid code -- missing end-of-block"
  | .literalCode => "invalid literal/lengths set"
  | .distanceCode => "invalid distances set"
  | .literal => "invalid literal/length code"
  | .distance => "invalid distance code"
  | .tooFar => "invalid distance too far back"

inductive Stop where
  | cutOff
  | fault (f : Fault)
  deriving DecidableEq, Repr

/-- A number with its lowest bit first. -/
def number : Nat → Bits → Except Stop (Nat × Bits)
  | 0, bits => .ok (0, bits)
  | _ + 1, [] => .error .cutOff
  | n + 1, b :: bits => (number n bits).map fun (high, bits) => (2 * high + b.toNat, bits)

/-- The number of words of each length from one on, and the symbols in the order of their words. -/
structure Code where
  counts : List Nat
  symbols : List Nat
  deriving DecidableEq, Repr

namespace Code

def symbolsOf (lengths : List Nat) (length : Nat) : List Nat :=
  (List.range lengths.length).filter fun symbol => lengths.getD symbol 0 == length

/-- The lengths from one to that of the longest word; a code without words counts as one that has room for some. -/
def usedLengths (lengths : List Nat) : List Nat := (List.range (max 1 (lengths.foldl max 0))).map (· + 1)

def ofLengths (lengths : List Nat) : Code :=
  let groups := (usedLengths lengths).map (symbolsOf lengths)
  ⟨groups.map List.length, groups.flatten⟩

/-- The words of each length take their part of what shorter ones left; nothing if they take too much. -/
def room : Nat → List Nat → Option Nat
  | left, [] => some left
  | left, count :: rest => if 2 * left < count then none else room (2 * left - count) rest

/-- No sequence of bits is without a meaning, but for a code that has one short word or none. -/
def isUsable (lone : Bool) (lengths : List Nat) : Bool :=
  match room 1 (ofLengths lengths).counts with
  | none => false
  | some 0 => true
  | some _ => lengths.all (· == 0) || (lone && lengths.all (· ≤ 1))

def symbolFrom : List Nat → List Nat → Nat → Nat → Bits → Except Stop (Option Nat × Bits)
  | [], _, _, _, bits => .ok (none, bits)
  | _ :: _, _, _, _, [] => .error .cutOff
  | count :: counts, symbols, first, word, b :: bits =>
    let first := 2 * first
    let word := 2 * word + b.toNat
    if word < first + count then .ok (symbols[word - first]?, bits)
    else symbolFrom counts (symbols.drop count) (first + count) word bits

def symbol (code : Code) (bits : Bits) : Except Stop (Option Nat × Bits) :=
  symbolFrom code.counts code.symbols 0 0 bits

end Code
end AsmScope.Deflate
