/-! Text inside a JSON string. A quote and a backslash stand after a backslash, the five usual control
characters have a letter, and the rest is written as it is or by its UTF-16 units in four hexadecimal digits. -/

namespace AsmScope.Text

def hexDigit (n : Nat) : Char :=
  if n < 10 then Char.ofNat (48 + n) else Char.ofNat (87 + n)

def fourHex (n : Nat) : List Char :=
  [hexDigit (n / 4096 % 16), hexDigit (n / 256 % 16), hexDigit (n / 16 % 16), hexDigit (n % 16)]

def unitEscape (n : Nat) : List Char := '\\' :: 'u' :: fourHex n

def unitEscapes (c : Char) : List Char :=
  let n := c.toNat
  if n < 0x10000 then unitEscape n
  else unitEscape (0xD800 + (n - 0x10000) / 0x400) ++ unitEscape (0xDC00 + (n - 0x10000) % 0x400)

def shortEscape? (c : Char) : Option Char :=
  if c = '"' then some '"'
  else if c = '\\' then some '\\'
  else if c = '\n' then some 'n'
  else if c = '\r' then some 'r'
  else if c = '\t' then some 't'
  else if c = Char.ofNat 8 then some 'b'
  else if c = Char.ofNat 12 then some 'f'
  else none

/-- With `ascii` all outside the printable ASCII range is escaped, else only the control characters. -/
def escapeChar (ascii : Bool) (c : Char) : List Char :=
  match shortEscape? c with
  | some letter => ['\\', letter]
  | none =>
    if c.toNat < 0x20 ∨ (ascii ∧ 0x7F ≤ c.toNat) then unitEscapes c else [c]

def escape (ascii : Bool) (s : List Char) : List Char := s.flatMap (escapeChar ascii)

end AsmScope.Text
