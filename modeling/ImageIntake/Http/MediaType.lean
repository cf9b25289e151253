import ImageIntake.Http.HeaderText
import ImageIntake.Text.Blank

namespace ImageIntake.Http

open Text

def isTokenChar (c : Char) : Bool :=
  c.isAlphanum || ['!', '#', '$', '%', '&', '\'', '*', '+', '-', '.', '^', '_', '`', '|', '~'].contains c

def afterQuoted : List Char → Option (List Char)
  | [] => some []
  | ' ' :: rest => afterQuoted rest
  | ';' :: rest => some rest
  | _ => none

def skipQuoted : List Char → Option (List Char)
  | [] => none
  | _ :: rest =>
      match rest.dropWhile (· != '"') with
      | [] => none
      | _ :: after => afterQuoted after

def skipParameterValue (cs : List Char) : Option (List Char) :=
  match cs with
  | '"' :: rest => skipQuoted rest
  | _ =>
      match cs.span isTokenChar with
      | (_, []) => some []
      | ([], _) => none
      | (_, ';' :: rest) => some rest
      | _ => none

def areParameters : Nat → List Char → Bool
  | 0, _ => false
  | fuel + 1, cs =>
      match cs.dropWhile (· == ' ') with
      | [] => true
      | cs =>
          match cs.span isTokenChar with
          | ([], _) => false
          | (_, '=' :: rest) =>
              match skipParameterValue rest with
              | none => false
              | some rest => areParameters fuel rest
          | _ => false

structure MediaType where
  type : String
  subtype : String
  suffix : Option String
  deriving DecidableEq, Repr

def cutSuffix (cs : List Char) : List Char × Option (List Char) :=
  let reversed := cs.reverse
  let suffix := reversed.takeWhile (· != '+')
  let before := (reversed.drop (suffix.length + 1)).reverse
  if suffix.length + 1 ≤ cs.length && !before.isEmpty then (before, some suffix.reverse)
  else (cs, none)

def MediaType.parse? (s : String) : Option MediaType :=
  match s.toList.span isTokenChar with
  | ([], _) => none
  | (type, '/' :: rest) =>
      let (subtype, after) := rest.span isTokenChar
      let (name, suffix) := cutSuffix subtype
      let result : MediaType :=
        ⟨toLowerAscii (String.ofList type), toLowerAscii (String.ofList name),
          suffix.map fun cs => toLowerAscii (String.ofList cs)⟩
      match after with
      | [] => some result
      | ';' :: parameters =>
          if subtype.isEmpty || parameters.any (fun c => c.toNat < 32) then none
          else if areParameters (parameters.length + 1) parameters then some result
          else none
      | _ => none
  | _ => none

def MediaType.isJson (m : MediaType) : Bool :=
  m.type == "application" && (m.subtype == "json" || m.suffix == some "json")

def announcesJson (value : ByteArray) : Bool :=
  match (visibleText? value).bind MediaType.parse? with
  | some m => m.isJson
  | none => false

end ImageIntake.Http
