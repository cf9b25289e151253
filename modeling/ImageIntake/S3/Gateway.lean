import ImageIntake.S3.Body
import ImageIntake.S3.ErrorDocument
import ImageIntake.S3.Signature

namespace ImageIntake.S3

open Text

structure Gateway (τ : Type) where
  readUrl : UrlReader
  settings : StoreSettings
  now : Instant
  transport : τ
  elapsed : Span := ⟨0⟩

inductive Operation where
  | get
  | put
  | delete
  deriving DecidableEq, Repr

namespace Operation

def method : Operation → String
  | .get => "GET"
  | .put => "PUT"
  | .delete => "DELETE"

def name : Operation → String
  | .get => "GetObject"
  | .put => "PutObject"
  | .delete => "DeleteObject"

end Operation

def maxLifetime : Span := .ofSeconds 604800

def timeoutDetail : String := "operation timed out"

def optionHeaders (options : PutOptions) : List (String × String) :=
  match options.cacheControl with
  | none => [("content-type", options.contentType)]
  | some directive => [("cache-control", directive), ("content-type", options.contentType)]

def buildRequest (readUrl : UrlReader) (settings : StoreSettings) (operation : Operation)
    (key : String) (headers : List (String × String)) (body : ByteArray) : Except String Request :=
  if key = "" then .error "the key is empty"
  else if !headers.all fun field => Http.isHeaderText field.2 then
    .error "a header value holds a control character"
  else match Endpoint.of? readUrl settings with
    | none => .error "the endpoint cannot be used"
    | some endpoint =>
        .ok {
          method := operation.method
          endpoint
          path := endpoint.keyPath key
          query := [("x-id", operation.name)]
          headers
          body }

def announcedLength (r : Response) : Except Unit (Option Int) :=
  match r.values "content-length" with
  | [] => .ok none
  | [value] =>
      match (trim value).toList with
      | [] => .ok none
      | '-' :: digits =>
          match readNumeral (1 <<< 63) (String.ofList digits) with
          | .ok n => if digits.head? = some '+' then .error () else .ok (some (-n))
          | .error _ => .error ()
      | digits =>
          match readNumeral (1 <<< 63 - 1) (String.ofList digits) with
          | .ok n => .ok (some n)
          | .error _ => .error ()
  | _ => .error ()

def bindingLength? (r : Response) : Option Nat :=
  match r.values "content-length" with
  | [value] => (readNumeral largest64 value).toOption
  | _ => none

def bodyEnd (r : Response) (size : Nat) : BodyEnd :=
  if r.breaksOff then .brokenOff
  else match bindingLength? r with
    | none => .complete
    | some length => if length = size then .complete else .brokenOff

def Response.body (r : Response) : Body := ⟨r.chunks, bodyEnd r (totalSize r.chunks)⟩

def receiveObject (key : String) (limit : Nat) (r : Response) : Answer ByteArray :=
  match announcedLength r with
  | .error () => .error (.service "the announced length cannot be read")
  | .ok length => (receiveBody key limit length r.body).1

def wholeBody? (r : Response) : Option ByteArray :=
  let data := r.chunks.foldl (· ++ ·) .empty
  match bodyEnd r data.size with
  | .complete => some data
  | .brokenOff => none

def refusal (operation : Operation) (key : String) (status : Nat) (code : Option String) :
    StoreError :=
  let detail := "status " ++ toString status ++ ", code " ++ code.getD "unknown"
  match operation with
  | .get =>
      if code = some "NoSuchKey" ∨ status = 404 then .notFound key
      else if 500 ≤ status then .serverFault detail
      else .service detail
  | .put => if 500 ≤ status then .serverFault detail else .service detail
  | .delete => .service detail

def acknowledge (operation : Operation) (key : String) (r : Response) : Answer Unit :=
  match wholeBody? r with
  | none => .error (.transport "Failed to read the response")
  | some body =>
      if r.isSuccess && !isErrorDocument body then .ok ()
      else .error (refusal operation key r.status (errorCode? body))

def receive (key : String) (limit : Nat) (r : Response) : Answer ByteArray :=
  if r.isSuccess then receiveObject key limit r
  else match wholeBody? r with
    | none => .error (.transport "Failed to read the response")
    | some body => .error (refusal .get key r.status (errorCode? body))

namespace Gateway

variable {τ : Type} [Transport τ]

def signer (g : Gateway τ) : Signer :=
  ⟨g.settings.accessKeyId, g.settings.secretAccessKey, g.settings.region, g.now⟩

def send (request : Except String Request) : StateM (Gateway τ) (Answer Response) := fun g =>
  match request with
  | .error detail => (.error (.transport detail), g)
  | .ok request =>
      match Transport.send (g.signer.sign request) g.transport with
      | (.response r, transport) => (.ok r, { g with transport })
      | (.failure, transport) => (.error (.transport "dispatch failure"), { g with transport })
      | (.silence, transport) =>
          (.error (.transport timeoutDetail),
            { g with transport, elapsed := g.elapsed + g.settings.timeout })

def getObject (key : String) (limit : Nat) : StateM (Gateway τ) (Answer ByteArray) := do
  let gateway ← get
  let request := buildRequest gateway.readUrl gateway.settings .get key [] .empty
  match ← send request with
  | .error e => return .error e
  | .ok r => return receive key limit r

def putObject (w : Write) : StateM (Gateway τ) (Answer Unit) := do
  let headers := optionHeaders w.options ++ [("content-length", toString w.body.size)]
  let gateway ← get
  let request := buildRequest gateway.readUrl gateway.settings .put w.key headers w.body
  match ← send request with
  | .error e => return .error e
  | .ok r => return acknowledge .put w.key r

def deleteObject (key : String) : StateM (Gateway τ) (Answer Unit) := do
  let gateway ← get
  let request := buildRequest gateway.readUrl gateway.settings .delete key [] .empty
  match ← send request with
  | .error e => return .error e
  | .ok r => return acknowledge .delete key r

def putBothObjects (first second : Write) : StateM (Gateway τ) (Answer Unit) := do
  let start := (← get).elapsed
  let one ← putObject first
  let oneElapsed := (← get).elapsed
  modify fun g => { g with elapsed := start }
  let two ← putObject second
  let twoElapsed := (← get).elapsed
  match one, two with
  | .ok (), .ok () => return .ok ()
  | .error e, .ok () => modify (fun g => { g with elapsed := oneElapsed }); return .error e
  | .ok (), .error e => return .error e
  | .error e, .error e' =>
      if oneElapsed ≤ twoElapsed then
        modify (fun g => { g with elapsed := oneElapsed })
        return .error e
      else return .error e'

def presignUpload (g : Gateway τ) (key contentType : String) (lifetime : Span) : Answer String :=
  if maxLifetime < lifetime then
    .error (.configuration ("Failed to create presigning config: " ++
      "`expires_in` must be no longer than one week"))
  else match buildRequest g.readUrl g.settings .put key [("content-type", contentType)] .empty with
    | .error detail => .error (.service ("Failed to generate presigned URL: " ++ detail))
    | .ok request => .ok (g.signer.presignedUrl request lifetime.seconds)

instance : ObjectStore (Gateway τ) where
  get := getObject
  put := putObject
  delete := deleteObject
  presign key contentType lifetime g := (g.presignUpload key contentType lifetime, g)
  putBoth := putBothObjects
  elapsed g := g.elapsed

end Gateway

end ImageIntake.S3
