import ImageIntake.Http.ApiError
import ImageIntake.Http.MediaType
import ImageIntake.Json.Record
import ImageIntake.Upload.Commit
import ImageIntake.Upload.Grant

namespace ImageIntake.Http

open Json (RecordForm FieldValue ReadProblem readRecord describeMismatch)

structure FormOf (α : Type) where
  form : RecordForm
  ofValues : List FieldValue → Option α
  brokenRule : α → Option ApiError

structure CommitOrder where
  post : String
  rawKey : String
  deriving DecidableEq, Repr

def declarationForm : FormOf Declaration where
  form := ⟨"PresignRequest", [("filename", .text), ("content_type", .text), ("bytes", .count)]⟩
  ofValues
    | [.text filename, .text contentType, .count bytes] => some { filename, contentType, bytes }
    | _ => none
  brokenRule d := if d.bytes = 0 then some (.ofField "bytes" "range") else none

def commitOrderForm : FormOf CommitOrder where
  form := ⟨"CommitRequest", [("post_id", .text), ("raw_key", .text)]⟩
  ofValues
    | [.text post, .text rawKey] => some { post, rawKey }
    | _ => none
  brokenRule order :=
    if !isPostId order.post then
      some (.ofField "post_id" "must be 1 to 128 characters of letters, digits, '_' or '-'")
    else if order.rawKey = "" then some (.ofField "raw_key" "length")
    else none

def problemError (document : List UInt8) : ReadProblem → ApiError
  | .malformed => .malformedJson
  | .mismatch site complaint rest =>
      .validation ("Failed to deserialize the JSON body into the target type: " ++
        describeMismatch document site complaint rest)

def sendsJson (r : Request) : Bool :=
  match r.header? "content-type" with
  | none => false
  | some value => announcesJson value

def readForm {α : Type} (f : FormOf α) (r : Request) : Except ApiError α :=
  if !sendsJson r then .error .missingContentType
  else if Policy.maxRequestBytes < r.body.size then .error .malformedJson
  else
    let document := r.body.toList
    match readRecord f.form document with
    | .error problem => .error (problemError document problem)
    | .ok values =>
        match f.ofValues values with
        | none => .error .malformedJson
        | some a =>
            match f.brokenRule a with
            | some e => .error e
            | none => .ok a

def grantDocument (g : Grant) : Json :=
  .record [
    ("upload_url", .string g.url),
    ("raw_key", .string g.rawKey),
    ("content_type", .string g.type.mime)]

def publicationDocument (p : Publication) : Json :=
  .record [
    ("status", .string publicationStatus),
    ("url_original", .string p.fullUrl),
    ("url_thumb", .string p.thumbnailUrl),
    ("width", .number p.width),
    ("height", .number p.height),
    ("bytes", .number p.bytes),
    ("created_at", .string p.createdAt.rfc3339)]

end ImageIntake.Http
