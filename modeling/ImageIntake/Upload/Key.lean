import ImageIntake.Upload.ImageType

namespace ImageIntake

def isTokenChar (c : Char) : Bool :=
  c.isDigit || ('a' ≤ c && c ≤ 'f')

def tokenLength : Nat := 32

def isToken (cs : List Char) : Bool :=
  cs.length == tokenLength && cs.all isTokenChar

structure Token where
  text : String
  isToken_toList : isToken text.toList = true

instance : DecidableEq Token := fun a b =>
  decidable_of_iff (a.text = b.text) (by cases a; cases b; simp)

namespace Token

def ofString? (s : String) : Option Token :=
  if h : isToken s.toList = true then some ⟨s, h⟩ else none

end Token

def rawPrefix : String := "raw"

def publicPrefix : String := "public"

def collection : String := "showoff"

def outputMime : String := "image/webp"

def outputExtension : String := "webp"

def rawKey (type : ImageType) (token : Token) : String :=
  rawPrefix ++ "/" ++ token.text ++ "." ++ type.extension

def isRawKey (key : String) : Bool :=
  match (rawPrefix ++ "/").toList.isPrefixOf? key.toList with
  | none => false
  | some file =>
      match file.span (· != '.') with
      | (_, []) => false
      | (token, _ :: extension) =>
          isToken token && (ImageType.ofExtension? (String.ofList extension)).isSome

structure PublishedKeys where
  full : String
  thumbnail : String
  deriving DecidableEq, Repr

def PublishedKeys.of (post image : String) : PublishedKeys :=
  let stem := publicPrefix ++ "/" ++ collection ++ "/" ++ post ++ "/" ++ image
  { full := stem ++ "." ++ outputExtension
    thumbnail := stem ++ "_thumb." ++ outputExtension }

def isPostChar (c : Char) : Bool :=
  c.isAlphanum || c == '_' || c == '-'

def isPostId (s : String) : Bool :=
  let cs := s.toList
  1 ≤ cs.length && cs.length ≤ 128 && cs.all isPostChar

end ImageIntake
