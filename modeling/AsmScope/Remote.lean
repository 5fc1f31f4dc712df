import AsmScope.Compile.Result
import AsmScope.Deflate.Inflate
import AsmScope.Text.Blank
import AsmScope.Text.Utf8

/-! Asking another service. A request is passed on as it came, but for headers that speak of one connection only.
Of the reply the status, the body and the type of the content are handed back. A body that is packed is unpacked
first. When no reply comes, or none that can be unpacked, the answer is a result that names the reason. -/

namespace AsmScope.Remote

structure Outgoing where
  url : String
  headers : List (String × String)
  body : String
  deriving DecidableEq, Repr

inductive Exchange where
  | answered (status : Nat) (headers : List (String × String)) (body : String)
  | failed (message : String)
  deriving DecidableEq, Repr

structure Relayed where
  status : Nat
  headers : List (String × String)
  body : String
  deriving DecidableEq, Repr

def lower (s : String) : String := s.map Char.toLower

def skippedHeaders : List String :=
  ["host", "content-length", "connection", "transfer-encoding", "accept-encoding"]

def trimSlashes (address : String) : String :=
  String.ofList ((address.toList.reverse.dropWhile (· == '/')).reverse)

def outgoing (address path body : String) (headers : List (String × String)) : Outgoing :=
  ⟨trimSlashes address ++ path, headers.filter fun h => !skippedHeaders.contains (lower h.1), body⟩

def contentTypeName : String := "content-type"

def jsonType : String := "application/json"

def contentTypes (headers : List (String × String)) : List (String × String) :=
  match headers.filter fun h => lower h.1 == contentTypeName with
  | [] => []
  | found => [(contentTypeName, String.intercalate ", " (found.map Prod.snd))]

def unreachable (message : String) : Relayed :=
  ⟨200, [(contentTypeName, jsonType)],
    Json.render Json.spaced (Result.rejection ("Remote compiler error: " ++ message))⟩

inductive Packing where
  | deflate
  | gzip
  deriving DecidableEq, Repr

def encodingName : String := "content-encoding"

def packing? (word : String) : Option Packing :=
  match lower word with
  | "deflate" => some .deflate
  | "gzip" => some .gzip
  | _ => none

def packings (headers : List (String × String)) : List Packing :=
  (headers.filter fun h => lower h.1 == encodingName).flatMap fun h =>
    (h.2.toList.splitOn ',').filterMap fun word => packing? (String.ofList (Text.trim word))

/-- No text begins like packed data of the second way, so one that is long enough to tell is refused. -/
def unpackText (octets : Text.Octets) : Except Deflate.Fault Text.Octets :=
  if octets.length < 2 then .ok [] else .error .header

def Packing.unpack : Packing → Text.Octets → Except Deflate.Fault Text.Octets
  | .deflate => Deflate.unpack
  | .gzip => unpackText

def unpacked (headers : List (String × String)) (body : String) : Except Deflate.Fault String :=
  match packings headers with
  | [] => .ok body
  | found => (found.reverse.foldlM (fun octets packing => Packing.unpack packing octets) (Text.encoded body)).map Text.decoded

def unpackError (f : Deflate.Fault) : String := "Error -3 while decompressing data: " ++ f.message

def relayed : Exchange → Relayed
  | .answered status headers body =>
    match unpacked headers body with
    | .ok body => ⟨status, contentTypes headers, body⟩
    | .error f => unreachable (unpackError f)
  | .failed message => unreachable message

def Relayed.contentType (r : Relayed) : String := (r.headers.lookup contentTypeName).getD jsonType

end AsmScope.Remote
