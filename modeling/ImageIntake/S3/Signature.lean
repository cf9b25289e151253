import ImageIntake.Digest.Sha256
import ImageIntake.S3.Request
import ImageIntake.Text.CodeRanges
import ImageIntake.Time.Instant

namespace ImageIntake.S3

open Text

structure Signer where
  accessKeyId : String
  secretAccessKey : String
  region : String
  now : Instant

namespace Signer

def algorithm : String := "AWS4-HMAC-SHA256"

def unsignedBody : String := "UNSIGNED-PAYLOAD"

def scope (s : Signer) : String :=
  s.now.basicDate ++ "/" ++ s.region ++ "/s3/aws4_request"

def credential (s : Signer) : String := s.accessKeyId ++ "/" ++ s.scope

def signingKey (s : Signer) : ByteArray :=
  [s.now.basicDate, s.region, "s3", "aws4_request"].foldl
    (fun key part => Digest.hmac key part.toUTF8) ("AWS4" ++ s.secretAccessKey).toUTF8

def canonicalQuery (query : List (String × String)) : String :=
  let escaped := query.map fun (name, value) => (escapeUnreserved name, escapeUnreserved value)
  let sorted := escaped.mergeSort fun a b => a.1 ≤ b.1
  "&".intercalate (sorted.map fun (name, value) => name ++ "=" ++ value)

def signedNames (headers : List (String × String)) : String :=
  ";".intercalate (headers.map (·.1))

def canonicalValue (value : String) : String :=
  " ".intercalate ((words value).map String.ofList)

def canonicalRequest (r : Request) (headers : List (String × String)) : String :=
  "\n".intercalate [
    r.method,
    r.path,
    canonicalQuery r.query,
    String.join (headers.map fun (name, value) => name ++ ":" ++ canonicalValue value ++ "\n"),
    signedNames headers,
    unsignedBody]

def signature (s : Signer) (r : Request) (headers : List (String × String)) : String :=
  let digest := hexOfByteArray (Digest.sha256 (canonicalRequest r headers).toUTF8)
  let text := "\n".intercalate [algorithm, s.now.basicStamp, s.scope, digest]
  hexOfByteArray (Digest.hmac s.signingKey text.toUTF8)

def sign (s : Signer) (r : Request) : Request :=
  let proof := [
    ("host", r.endpoint.signedHost),
    ("x-amz-content-sha256", unsignedBody),
    ("x-amz-date", s.now.basicStamp)]
  let authorization := algorithm ++ " Credential=" ++ s.credential ++ ", SignedHeaders=" ++
    signedNames proof ++ ", Signature=" ++ s.signature r proof
  { r with headers := r.headers ++ proof.drop 1 ++ [("authorization", authorization)] }

def presignedUrl (s : Signer) (r : Request) (seconds : Nat) : String :=
  let headers := r.headers ++ [("host", r.endpoint.signedHost)]
  let query := r.query ++ [
    ("X-Amz-Algorithm", algorithm),
    ("X-Amz-Credential", s.credential),
    ("X-Amz-Date", s.now.basicStamp),
    ("X-Amz-Expires", toString seconds),
    ("X-Amz-SignedHeaders", signedNames headers)]
  let signed := { r with query }
  r.endpoint.scheme ++ "://" ++ r.endpoint.authority ++ r.path ++ "?" ++ canonicalQuery query ++
    "&X-Amz-Signature=" ++ s.signature signed headers

end Signer

end ImageIntake.S3
