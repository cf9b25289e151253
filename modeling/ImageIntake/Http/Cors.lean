import ImageIntake.Http.Message

namespace ImageIntake.Http

structure Cors where
  origins : List String

namespace Cors

def isServable (c : Cors) : Bool := !c.origins.contains "*"

def allowOrigin (c : Cors) (r : Request) : Headers :=
  match r.header? "origin" with
  | none => []
  | some origin =>
      if c.origins.any fun allowed => allowed.toUTF8 == origin then
        [("access-control-allow-origin", origin)]
      else []

def shared (c : Cors) (r : Request) : Headers :=
  c.allowOrigin r ++ [
    ("vary", "origin, access-control-request-method, access-control-request-headers".toUTF8),
    ("access-control-allow-credentials", "true".toUTF8)]

def echo (r : Request) (asked allowed : String) : Headers :=
  match r.header? asked with
  | none => []
  | some value => [(allowed, value)]

def preflight (c : Cors) (r : Request) : Headers :=
  c.shared r ++ echo r "access-control-request-method" "access-control-allow-methods" ++
    echo r "access-control-request-headers" "access-control-allow-headers"

def actual (c : Cors) (r : Request) : Headers :=
  c.shared r ++ [("access-control-expose-headers", "content-type".toUTF8)]

end Cors

end ImageIntake.Http
