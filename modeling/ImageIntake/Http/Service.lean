import ImageIntake.Http.Cors
import ImageIntake.Http.Description
import ImageIntake.Http.Forms
import ImageIntake.Http.Guard
import ImageIntake.Settings.Basic

namespace ImageIntake.Http

inductive Route where
  | root
  | health
  | page
  | description
  | presign
  | commit
  deriving DecidableEq, Repr

namespace Route

def path : Route → String
  | .root => "/"
  | .health => "/health"
  | .page => "/docs"
  | .description => "/openapi.json"
  | .presign => "/api/uploads/presign"
  | .commit => "/api/uploads/commit"

def isForAuthors : Route → Bool
  | .page => true
  | .description => true
  | _ => false

def isGuarded : Route → Bool
  | .presign => true
  | .commit => true
  | _ => false

def allowed (route : Route) : String :=
  if route.isGuarded then "POST" else "GET,HEAD"

def all : List Route := [.root, .health, .page, .description, .presign, .commit]

def find? (stage : Stage) (path : String) : Option Route :=
  all.find? fun route => route.path == path && (stage.showsApiDocs || !route.isForAuthors)

end Route

structure Service where
  settings : Settings
  render : ByteArray → Option RenditionPair

namespace Service

def serviceName : String := "showoff-backend"

def serviceVersion : String := "0.1.0"

def pageTitle : String := "Showoff Upload Service Docs"

def guard (s : Service) : Guard := ⟨s.settings.apiKey⟩

def cors (s : Service) : Cors := ⟨s.settings.origins⟩

def publisher (s : Service) : Publisher := ⟨s.settings.publicBase, s.render⟩

def isServable (s : Service) : Bool := s.cors.isServable

def healthDocument (name : Option String) : Json :=
  .record ([("ok", .bool true)] ++ (name.map fun n => ("service", Json.string n)).toList ++
    [("semver", .string serviceVersion), ("rev", .null)])

def show? : Route → Option Body
  | .root => some (.json (healthDocument (some serviceName)))
  | .health => some (.json (healthDocument none))
  | .page => some (.page ⟨pageTitle, Route.description.path⟩)
  | .description => some (.json Description.document)
  | .presign => none
  | .commit => none

def answer {α : Type} (document : α → Json) : Except UploadError α → Reply
  | .ok a => .ofBody 200 (.json (document a))
  | .error e => (ApiError.ofUpload e).reply

def presign (token : Token) (r : Request) : Program Reply :=
  match readForm declarationForm r with
  | .error e => .done e.reply
  | .ok declaration =>
      (authorize Policy.uploadLifetime token declaration).bind fun result =>
        .done (answer grantDocument result)

def commit (s : Service) (token : Token) (now : Instant) (r : Request) : Program Reply :=
  match readForm commitOrderForm r with
  | .error e => .done e.reply
  | .ok order =>
      (s.publisher.commit token now order.post order.rawKey).bind fun result =>
        .done (answer publicationDocument result)

def methodNotAllowed (route : Route) : Reply :=
  (Reply.ofStatus 405).addHeaders [("allow", route.allowed.toUTF8)]

def handleGuarded (s : Service) (token : Token) (now : Instant) (route : Route) (r : Request) :
    Program Reply :=
  if !s.guard.admits r then
    let reply := (ApiError.ofUpload .unauthorized).reply
    .done (if r.method = "POST" then reply
      else reply.addHeaders [("allow", route.allowed.toUTF8)])
  else if r.method ≠ "POST" then .done (methodNotAllowed route)
  else match route with
    | .presign => presign token r
    | .commit => s.commit token now r
    | _ => .done (.ofStatus 404)

def handleRoute (s : Service) (token : Token) (now : Instant) (route : Route) (r : Request) :
    Program Reply :=
  match show? route with
  | none => s.handleGuarded token now route r
  | some body =>
      .done (if r.method = "GET" ∨ r.method = "HEAD" then .ofBody 200 body
        else methodNotAllowed route)

def handleActual (s : Service) (token : Token) (now : Instant) (r : Request) : Program Reply :=
  let reply : Program Reply := match Route.find? s.settings.stage r.path with
    | none => .done (.ofStatus 404)
    | some route => s.handleRoute token now route r
  reply.bind fun reply =>
    .done ((if r.method = "HEAD" then reply.withoutBody else reply).addHeaders (s.cors.actual r))

def preflight (s : Service) (r : Request) : Reply :=
  let allow := match Route.find? s.settings.stage r.path with
    | none => []
    | some route => [("allow", route.allowed.toUTF8)]
  (Reply.ofStatus 200).addHeaders (allow ++ s.cors.preflight r)

def handle (s : Service) (token : Token) (now : Instant) (r : Request) : Program Reply :=
  if r.method = "OPTIONS" then .done (s.preflight r) else s.handleActual token now r

def timedOut : Reply := .ofStatus 408

/-- Handles a request on a store, within the time that the settings grant. Only the store's calls
take time here, and work between them, such as rendering, takes none: on a store in memory, whose
clock stands still, no request is late unless the settings grant no time at all. -/
def respond {σ : Type} [ObjectStore σ] (s : Service) (token : Token) (now : Instant)
    (r : Request) : StateM σ Reply := do
  let reply ← (s.handle token now r).runWithin s.settings.requestTimeout
  return reply.getD timedOut

end Service

end ImageIntake.Http
