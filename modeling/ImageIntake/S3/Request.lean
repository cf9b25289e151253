import ImageIntake.S3.Endpoint

namespace ImageIntake.S3

structure Request where
  method : String
  endpoint : Endpoint
  path : String
  query : List (String × String)
  headers : List (String × String)
  body : ByteArray := .empty

structure Response where
  status : Nat
  headers : List (String × String)
  chunks : List ByteArray
  breaksOff : Bool := false

inductive Outcome where
  | response (r : Response)
  | failure
  | silence

class Transport (τ : Type) where
  send : Request → StateM τ Outcome

namespace Response

def isSuccess (r : Response) : Bool := 200 ≤ r.status && r.status ≤ 299

def values (r : Response) (name : String) : List String :=
  (r.headers.filter fun field => Text.toLowerAscii field.1 == name).map (·.2)

end Response

end ImageIntake.S3
