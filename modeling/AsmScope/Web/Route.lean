import AsmScope.Remote
import AsmScope.Text.Find
import AsmScope.Web.Address

/-! Requests over HTTP and where they lead. A path is known or not; a known path has one method, besides the
question which methods it has. Two slashes where a known path has one lead to that path. A known path is not reached
by a scheme for sockets. -/

namespace AsmScope.Web
open AsmScope.Text

structure HttpRequest where
  method : String
  target : String
  contentType : Option String
  body : String
  deriving DecidableEq, Repr

inductive Page where
  | health
  | compilers
  | compile
  deriving DecidableEq, Repr

inductive Place where
  | page (p : Page)
  | file
  deriving DecidableEq, Repr

inductive Route where
  | page (p : Page)
  | head (p : Page)
  | methods
  | moved
  | wrongScheme
  | wrongMethod
  | unknown
  deriving DecidableEq, Repr

namespace Place

def pages : List (String × Page) :=
  [("/api/health", .health), ("/api/compilers", .compilers), ("/api/compile", .compile), ("/compile", .compile)]

def isFile (path : List Char) : Bool :=
  match after? "/static/".toList path with
  | some (c :: r) => c != '/' && !r.contains '\n'
  | _ => false

def ofPath? (path : List Char) : Option Place :=
  ((pages.lookup (String.ofList path)).map .page).or (if isFile path then some .file else none)

def method : Place → String
  | .page .compile => "POST"
  | _ => "GET"

def allows (p : Place) (m : String) : Bool := m == p.method || m == "OPTIONS" || (m == "HEAD" && p.method == "GET")

end Place

namespace Route

def upperLetters (c : Char) : List Char :=
  if c = 'ſ' then ['S']
  else if c = 'ı' then ['I']
  else if c = 'ﬅ' ∨ c = 'ﬆ' then ['S', 'T']
  else [c.toUpper]

def methodName (s : String) : String := String.ofList (s.toList.flatMap upperLetters)

def mergeSlashes : List Char → List Char
  | '/' :: '/' :: r => '/' :: mergeSlashes r
  | c :: r => c :: mergeSlashes r
  | [] => []

def isSocketScheme (scheme : String) : Bool := scheme == "ws" || scheme == "wss"

/-- A request for a head that does not spell it in capitals is answered with the content. -/
def ofPlace (place : Place) (r : HttpRequest) : Route :=
  let name := methodName r.method
  if !place.allows name then .wrongMethod
  else if isSocketScheme (Address.schemeOf r.target) then .wrongScheme
  else if name = "OPTIONS" then .methods
  else
    match place with
    | .file => .unknown
    | .page p => if r.method = "HEAD" then .head p else .page p

def ofRequest (r : HttpRequest) : Route :=
  let path := Address.route r.target
  match Place.ofPath? path with
  | some place => ofPlace place r
  | none =>
    match Place.ofPath? (mergeSlashes path) with
    | none => .unknown
    | some place => match ofPlace place r with
      | .wrongMethod => .wrongMethod
      | .wrongScheme => .wrongScheme
      | _ => .moved

end Route

def isTypeSpace (c : Char) : Bool := c == ' ' || c == '\t'

def HttpRequest.mediaType (r : HttpRequest) : String :=
  let given := ((r.contentType.getD "").toList.takeWhile (· != ';')).dropWhile isTypeSpace
  Remote.lower (String.ofList (given.reverse.dropWhile isTypeSpace).reverse)

def HttpRequest.saysJson (r : HttpRequest) : Bool :=
  let media := r.mediaType.toList
  media == Remote.jsonType.toList
    || ("application/".toList.isPrefixOf media && "+json".toList.isSuffixOf media)

end AsmScope.Web
