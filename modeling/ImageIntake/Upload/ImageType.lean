import ImageIntake.Text.Blank

namespace ImageIntake

open Text

inductive ImageType where
  | jpeg
  | png
  | webp
  deriving DecidableEq, Repr

namespace ImageType

def all : List ImageType := [.jpeg, .png, .webp]

def mime : ImageType → String
  | .jpeg => "image/jpeg"
  | .png => "image/png"
  | .webp => "image/webp"

def extension : ImageType → String
  | .jpeg => "jpg"
  | .png => "png"
  | .webp => "webp"

def plainDeclaration (declared : String) : String :=
  toLowerAscii (trim declared)

def parse? (declared : String) : Option ImageType :=
  all.find? fun t => t.mime == plainDeclaration declared

def ofExtension? (extension : String) : Option ImageType :=
  all.find? fun t => t.extension == extension

theorem mime_of_parse? {declared : String} {t : ImageType} (h : parse? declared = some t) :
    t.mime = plainDeclaration declared := by
  simpa using List.find?_some h

theorem extension_of_ofExtension? {extension : String} {t : ImageType}
    (h : ofExtension? extension = some t) : t.extension = extension := by
  simpa using List.find?_some h

end ImageType

end ImageIntake
