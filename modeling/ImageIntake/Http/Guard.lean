import ImageIntake.Http.HeaderText
import ImageIntake.Http.Message
import ImageIntake.Settings.Description
import ImageIntake.Upload.Error

namespace ImageIntake.Http

structure Guard where
  secret : String

namespace Guard

def headerName : String := "x-api-key"

def accepts (g : Guard) (presented : Option String) : Bool :=
  match presented with
  | none => false
  | some text => text == g.secret

def verify (g : Guard) (presented : Option String) : Except UploadError Unit :=
  if g.accepts presented then .ok () else .error .unauthorized

def describe (_ : Guard) : String := describeFields "AccessGuard" [("expected", covered)]

def presented (r : Request) : Option String :=
  (r.header? headerName).bind visibleText?

def admits (g : Guard) (r : Request) : Bool :=
  g.accepts (presented r)

end Guard

end ImageIntake.Http
