import AsmScope.Text.Escaped
import AsmScope.Text.Printable

/-! A text in quotes, as a message shows it. Single quotes are used unless the text has a single quote and
no double one. The quote in use and the backslash stand after a backslash; what is not printable is written
by its code point in two, four or eight hexadecimal digits. -/

namespace AsmScope.Text

def quoteFor (s : List Char) : Char :=
  if '\'' ∈ s ∧ '"' ∉ s then '"' else '\''

def codeEscape (n : Nat) : List Char :=
  if n < 0x100 then '\\' :: 'x' :: [hexDigit (n / 16), hexDigit (n % 16)]
  else if n < 0x10000 then '\\' :: 'u' :: fourHex n
  else '\\' :: 'U' :: (fourHex (n / 0x10000) ++ fourHex (n % 0x10000))

def quoteChar (quote c : Char) : List Char :=
  if c = quote ∨ c = '\\' then ['\\', c]
  else if c = '\t' then ['\\', 't']
  else if c = '\n' then ['\\', 'n']
  else if c = '\r' then ['\\', 'r']
  else if isPrintable c then [c]
  else codeEscape c.toNat

def quote (s : List Char) : List Char :=
  let mark := quoteFor s
  mark :: (s.flatMap (quoteChar mark) ++ [mark])

def quoted (s : String) : String := String.ofList (quote s.toList)

end AsmScope.Text
