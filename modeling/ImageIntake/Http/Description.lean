import ImageIntake.Json.Basic

namespace ImageIntake.Http.Description

open Json

def primitive (type : String) (about : String) : Json :=
  .record (("type", .string type) :: if about = "" then [] else [("description", .string about)])

def text (about : String) : Json := primitive "string" about

def optionalText (about : String) : Json :=
  .record [("type", .list [.string "string", .string "null"]), ("description", .string about)]

def filledText (about : String) : Json :=
  .record [("type", .string "string"), ("description", .string about), ("minLength", .number 1)]

def count (format : String) (least : Nat) (about : String) : Json :=
  .record [
    ("type", .string "integer"),
    ("format", .string format),
    ("minimum", .number least),
    ("description", .string about)]

def recordOf (about : String) (properties : List (String × Json)) (required : List String) : Json :=
  .record ([
    ("type", .string "object"),
    ("properties", .record properties),
    ("required", .list (required.map .string))] ++
    if about = "" then [] else [("description", .string about)])

def aboutOrder : String := "Request to publish a raw upload"

def aboutPublication : String := "Published image pair"

def aboutDeclaration : String := "Request to authorize a direct upload"

def aboutGrant : String := "Direct-upload authorization"

def schemas : List (String × Json) := [
  ("CommitRequest", recordOf aboutOrder [
    ("post_id", text "Post the image belongs to"),
    ("raw_key", filledText "Key returned by `/api/uploads/presign`")]
    ["post_id", "raw_key"]),
  ("CommitResponse", recordOf aboutPublication [
    ("status", text "Always `OK`"),
    ("url_original", text "Public URL of the sanitized image"),
    ("url_thumb", text "Public URL of the thumbnail"),
    ("width", count "uint32" 0 "Width in pixels after orientation correction"),
    ("height", count "uint32" 0 "Height in pixels after orientation correction"),
    ("bytes", count "uint" 0 "Size of the sanitized image in bytes"),
    ("created_at", text "RFC 3339 UTC timestamp")]
    ["status", "url_original", "url_thumb", "width", "height", "bytes", "created_at"]),
  ("HealthResponse", recordOf "" [
    ("ok", primitive "boolean" ""),
    ("rev", optionalText "Commit hash of the current build (if available)"),
    ("semver", text "Current version of the application"),
    ("service", optionalText "Service name, reported on `/` only")]
    ["ok", "semver"]),
  ("PresignRequest", recordOf aboutDeclaration [
    ("filename", text "Client-side file name, informational only"),
    ("content_type",
      text "MIME type of the file: `image/jpeg`, `image/png` or `image/webp`"),
    ("bytes", count "uint64" 1 "Declared size in bytes, at most 5 MiB")]
    ["filename", "content_type", "bytes"]),
  ("PresignResponse", recordOf aboutGrant [
    ("upload_url", text "Presigned `PUT` URL, valid for 300 seconds"),
    ("raw_key", text "Key to pass back to `/api/uploads/commit`"),
    ("content_type", text "Normalized content type; the upload must be sent with it")]
    ["upload_url", "raw_key", "content_type"])]

def content (schema : String) : String × Json :=
  ("content", .record [("application/json", .record [("schema", .record [
    ("$ref", .string ("#/components/schemas/" ++ schema))])])])

def success (schema about : String) : String × Json :=
  ("responses", .record [("200", .record [content schema, ("description", .string about)])])

def reading (schema : String) : Json :=
  .record [("get", .record [success schema ""])]

def taking (asked aboutAsked given aboutGiven : String) : Json :=
  .record [("post", .record [
    ("requestBody", .record [
      content asked, ("description", .string aboutAsked), ("required", .bool true)]),
    success given aboutGiven])]

def document : Json :=
  .record [
    ("openapi", .string "3.1.0"),
    ("info", .record [("title", .string ""), ("version", .string "")]),
    ("paths", .record [
      ("/", reading "HealthResponse"),
      ("/health", reading "HealthResponse"),
      ("/api/uploads/presign",
        taking "PresignRequest" aboutDeclaration "PresignResponse" aboutGrant),
      ("/api/uploads/commit",
        taking "CommitRequest" aboutOrder "CommitResponse" aboutPublication)]),
    ("components", .record [("schemas", .record schemas)])]

end ImageIntake.Http.Description
