import AsmScope.Text.Find
import AsmScope.Text.Numeral
import AsmScope.Text.Utf8

/-! Addresses of requests. Before the path there may be a scheme and a host, after it a query and a fragment. What is
taken for the path of a request is taken apart again twice, so a path that begins with a host of its own loses it.
Octets in a path may be written by a percent sign and two digits. -/

namespace AsmScope.Web
open AsmScope.Text

structure Address where
  scheme : List Char
  host : List Char
  path : List Char
  query : List Char
  deriving DecidableEq, Repr

namespace Address

def isLetter (c : Char) : Bool := ('a' ≤ c && c ≤ 'z') || ('A' ≤ c && c ≤ 'Z')

def isSchemeChar (c : Char) : Bool := isLetter c || isAsciiDigit c || c == '+' || c == '-' || c == '.'

def cleaned (s : List Char) : List Char :=
  (s.dropWhile fun c => c.toNat ≤ 32).filter fun c => c != '\t' && c != '\r' && c != '\n'

def splitScheme (s : List Char) : List Char × List Char :=
  let name := s.takeWhile (· != ':')
  match s.dropWhile (· != ':') with
  | ':' :: rest =>
    if name.head?.any isLetter && name.all isSchemeChar then (name.map Char.toLower, rest) else ([], s)
  | _ => ([], s)

def endsHost (c : Char) : Bool := c == '/' || c == '?' || c == '#'

def splitHost : List Char → List Char × List Char
  | '/' :: '/' :: rest => (rest.takeWhile fun c => !endsHost c, rest.dropWhile fun c => !endsHost c)
  | s => ([], s)

def ofText (s : List Char) : Address :=
  let (scheme, rest) := splitScheme (cleaned s)
  let (host, rest) := splitHost rest
  let rest := rest.takeWhile (· != '#')
  ⟨scheme, host, rest.takeWhile (· != '?'), (rest.dropWhile (· != '?')).drop 1⟩

def pathAndQuery (a : Address) : List Char := if a.query.isEmpty then a.path else a.path ++ '?' :: a.query

/-- Everything of an address but its query; a host is the same in letters of either case. -/
def location (a : Address) : List Char :=
  (if a.scheme.isEmpty then [] else a.scheme ++ [':'])
    ++ (if a.host.isEmpty then [] else '/' :: '/' :: a.host.map Char.toLower) ++ a.path

def octets : List Char → Octets
  | '%' :: a :: b :: r =>
    if isHexDigit a.toLower && isHexDigit b.toLower then
      UInt8.ofNat (hexDigitValue a.toLower * 16 + hexDigitValue b.toLower) :: octets r
    else encode ['%'] ++ octets (a :: b :: r)
  | c :: r => encode [c] ++ octets r
  | [] => []

def route (target : String) : List Char :=
  let inner := ofText (ofText target.toList).pathAndQuery
  '/' :: (decode (octets (ofText inner.path).location)).dropWhile (· == '/')

def schemeOf (target : String) : String := String.ofList (ofText target.toList).scheme

end Address
end AsmScope.Web
