import AsmScope.Text.Ranges

/-! Letters in lower case. The capitals of Latin, Greek and Cyrillic stand at fixed distances from their small
letters, or just before them. -/

namespace AsmScope.Text

def shifted : List (Nat × Nat × Nat) :=
  [(0x41, 0x5A, 32), (0xC0, 0xD6, 32), (0xD8, 0xDE, 32), (0x391, 0x3A1, 32), (0x3A3, 0x3AB, 32),
    (0x400, 0x40F, 80), (0x410, 0x42F, 32), (0x531, 0x556, 48), (0x24B6, 0x24CF, 26), (0xFF21, 0xFF3A, 32)]

/-- Runs in which every even code is a capital and the next one its small letter. -/
def pairedFromEven : List (Nat × Nat) :=
  [(0x100, 0x12F), (0x132, 0x137), (0x14A, 0x177), (0x1DE, 0x1EF), (0x1F8, 0x21F), (0x222, 0x233),
    (0x460, 0x481), (0x48A, 0x4BF), (0x4D0, 0x52F), (0x1E00, 0x1E95), (0x1EA0, 0x1EFF)]

/-- Runs in which every odd code is a capital and the next one its small letter. -/
def pairedFromOdd : List (Nat × Nat) := [(0x139, 0x148), (0x179, 0x17E), (0x1CD, 0x1DC), (0x4C1, 0x4CE)]

def lowerCode (n : Nat) : Nat :=
  match shifted.find? fun run => run.1 ≤ n && n ≤ run.2.1 with
  | some run => n + run.2.2
  | none =>
    if n = 0x178 then 0xFF
    else if n = 0x212A then 0x6B
    else if n = 0x212B then 0xE5
    else if inRanges pairedFromEven n && n % 2 == 0 then n + 1
    else if inRanges pairedFromOdd n && n % 2 == 1 then n + 1
    else n

def lowerLetter (c : Char) : Char := if c.toNat < 128 then c.toLower else Char.ofNat (lowerCode c.toNat)

def lowerCase (s : List Char) : List Char := s.map lowerLetter

end AsmScope.Text
