namespace ImageIntake

inductive Json where
  | null
  | bool (value : Bool)
  | number (value : Nat)
  | string (value : String)
  | list (items : List Json)
  | record (fields : List (String × Json))
  deriving Repr, Inhabited

namespace Json

def field? (name : String) : Json → Option Json
  | .record fields => fields.lookup name
  | _ => none

end Json

end ImageIntake
