import AsmScope.Document.Display
import AsmScope.Document.JsonOctets
import AsmScope.Environment
import AsmScope.Rehearsal.Basic
import AsmScope.Remote
import AsmScope.Text.Quoted
import AsmScope.Web.Route

/-! The site: its health, the compilers it knows, and compiling. A request to compile needs a source and a known
compiler. If the compiler is a remote one the body is passed on untouched; otherwise the service answers, and
whatever goes wrong there is told in a result, but for data that cannot be read. -/

namespace AsmScope.Web

inductive Content where
  | nothing
  | document (v : Value)
  | relayed (contentType : Option String) (text : String)
  deriving Repr

structure Reply where
  status : Nat
  content : Content
  deriving Repr

/-- The site on a described machine, with the remote services' replies to come and what was passed on to them. -/
structure Site where
  environment : EnvironmentReport
  rehearsal : Rehearsal
  replies : List Remote.Exchange
  passedOn : List Remote.Outgoing

namespace Site

def version : String := "0.1.0"

def start (config : AppConfig) (commands : List HostCommand) (rules : List Rule)
    (replies : List Remote.Exchange) : Site :=
  let report := EnvironmentReport.survey commands config
  ⟨report, .start (.ofConfig (report.apply config) []) rules, replies, []⟩

def registry (s : Site) : Registry := s.rehearsal.service.workshop.registry

def health (s : Site) : Value :=
  let store := s.rehearsal.service.store
  .table [("status", .string "ok"), ("version", .string version),
    ("compilers", .ofNat s.registry.entries.length),
    ("cache", .table [("entries", .ofNat store.entries.length), ("bytes", .ofNat store.size),
      ("capacity", .int store.capacity)])]

/-- A remote compiler counts as available. -/
def compilers (s : Site) : Value :=
  .list (s.registry.summaries.map fun c =>
    .table (c.fields ++ [("available", .bool (c.isRemote || s.environment.isAvailable c.id))]))

def refusal (status : Nat) (message : String) : Reply :=
  ⟨status, .document (.table [("error", .string message)])⟩

def answer (v : Value) : Reply := ⟨200, .document v⟩

/-- How a failure is told: as a status of its own, or as a result with a message. -/
def told : Failure → Reply
  | .malformed problems => refusal 400 ("Malformed request: " ++ (Failure.malformed problems).message)
  | .unknownCompiler id => refusal 404 (Failure.unknownCompiler id).message
  | failure =>
    answer <| Result.rejection <|
      if failure.isRejection then failure.message else "Internal compiler explorer error: " ++ failure.message

def hasContent (status : Nat) : Bool := (status < 100 || 200 ≤ status) && status ≠ 204 && status ≠ 304

def relay (r : Remote.Relayed) : Reply :=
  ⟨r.status, .relayed (if r.status = 304 then none else some r.contentType)
    (if hasContent r.status then r.body else "")⟩

def nextReply (s : Site) : Remote.Exchange × Site :=
  match s.replies with
  | [] => (.failed "connection refused", s)
  | reply :: rest => (reply, { s with replies := rest })

def passOn (s : Site) (address : String) (request : HttpRequest) : Reply × Site :=
  let (exchange, s) := s.nextReply
  let headers := (request.contentType.map fun type => ("Content-Type", type)).toList
  let sent := Remote.outgoing address (String.ofList (Address.route request.target)) request.body headers
  (relay (Remote.relayed exchange), { s with passedOn := s.passedOn ++ [sent] })

def compileHere (s : Site) (payload : Fields) : Reply × Site :=
  match Request.ofPayload payload with
  | .error failure => (told failure, s)
  | .ok request =>
    let (outcome, rehearsal) := s.rehearsal.single request
    let reply := match outcome with
      | .ok result => answer result.toValue
      | .error failure => told failure
    (reply, { s with rehearsal := rehearsal })

def payload? (request : HttpRequest) : Option Fields :=
  if request.saysJson then
    match Json.readOctets? (Text.encoded request.body) with
    | some (.table fields) =>
      match Fields.get? fields "source" with
      | some (.string _) => some fields
      | _ => none
    | _ => none
  else none

def compile (s : Site) (request : HttpRequest) : Reply × Site :=
  match payload? request with
  | none => (refusal 400 "source is required", s)
  | some payload =>
    let id := Request.shown payload "compiler"
    match s.registry.find? id with
    | none => (refusal 404 (Failure.unknownCompiler id).message, s)
    | some entry =>
      match entry.settings.remote, entry.settings.isRemote with
      | some address, true => s.passOn address request
      | _, _ => s.compileHere payload

def page (s : Site) (request : HttpRequest) : Page → Reply × Site
  | .health => (answer s.health, s)
  | .compilers => (answer s.compilers, s)
  | .compile => s.compile request

def handle (s : Site) (request : HttpRequest) : Reply × Site :=
  match Route.ofRequest request with
  | .page p => s.page request p
  | .head _ => (⟨200, .nothing⟩, s)
  | .methods => (⟨200, .nothing⟩, s)
  | .moved => (⟨308, .nothing⟩, s)
  | .wrongScheme => (⟨400, .nothing⟩, s)
  | .wrongMethod => (⟨405, .nothing⟩, s)
  | .unknown => (⟨404, .nothing⟩, s)

def clearNotes (s : Site) : Site := { s with rehearsal := s.rehearsal.clearNotes, passedOn := [] }

end Site
end AsmScope.Web
