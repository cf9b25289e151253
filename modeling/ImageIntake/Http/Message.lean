import ImageIntake.Json.Basic
import ImageIntake.Text.Blank

namespace ImageIntake.Http

open Text

abbrev Headers := List (String × ByteArray)

structure Request where
  method : String
  target : String
  headers : Headers
  body : ByteArray

namespace Request

def header? (r : Request) (name : String) : Option ByteArray :=
  (r.headers.find? fun field => toLowerAscii field.1 == name).map (·.2)

def path (r : Request) : String :=
  String.ofList (r.target.toList.takeWhile fun c => c != '?' && c != '#')

end Request

structure Page where
  title : String
  descriptionUrl : String
  deriving DecidableEq, Repr

inductive Body where
  | empty
  | json (document : Json)
  | page (page : Page)

structure Reply where
  status : Nat
  headers : Headers
  body : Body

namespace Body

def contentType : Body → Headers
  | .empty => []
  | .json _ => [("content-type", "application/json".toUTF8)]
  | .page _ => [("content-type", "text/html; charset=utf-8".toUTF8)]

end Body

namespace Reply

def ofBody (status : Nat) (body : Body) : Reply := ⟨status, body.contentType, body⟩

def ofStatus (status : Nat) : Reply := ⟨status, [], .empty⟩

def addHeaders (r : Reply) (headers : Headers) : Reply := { r with headers := r.headers ++ headers }

def withoutBody (r : Reply) : Reply := { r with body := .empty }

end Reply

end ImageIntake.Http
