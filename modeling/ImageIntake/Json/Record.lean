import ImageIntake.Json.Reader
import ImageIntake.Text.Quoted

namespace ImageIntake.Json

open Text

inductive FieldKind where
  | text
  | count
  deriving DecidableEq, Repr

inductive FieldValue where
  | text (value : String)
  | count (value : Nat)
  deriving DecidableEq, Repr

def FieldKind.expected : FieldKind → String
  | .text => "a string"
  | .count => "u64"

structure RecordForm where
  name : String
  fields : List (String × FieldKind)

def RecordForm.expected (form : RecordForm) : String :=
  "struct " ++ form.name

inductive Found where
  | null
  | bool (value : Bool)
  | natural (n : Nat)
  | negative (n : Nat)
  | float (x : Float)
  | string (value : String)
  | list
  | record

def Found.describe : Found → String
  | .null => "null"
  | .bool true => "boolean `true`"
  | .bool false => "boolean `false`"
  | .natural n => "integer `" ++ toString n ++ "`"
  | .negative n => "integer `-" ++ toString n ++ "`"
  | .float x => "floating point `" ++ Number.floatText x ++ "`"
  | .string value => "string " ++ quote value
  | .list => "sequence"
  | .record => "map"

inductive Complaint where
  | wrongType (found : Found) (expected : String)
  | belowZero (n : Nat)
  | wrongLength (count : Nat) (form : RecordForm)
  | missing (field : String)
  | duplicate (field : String)

def Complaint.describe : Complaint → String
  | .wrongType found expected => "invalid type: " ++ found.describe ++ ", expected " ++ expected
  | .belowZero n =>
      "invalid value: " ++ (Found.negative n).describe ++ ", expected " ++ FieldKind.count.expected
  | .wrongLength count form =>
      "invalid length " ++ toString count ++ ", expected " ++ form.expected ++ " with " ++
        toString form.fields.length ++ (if form.fields.length = 1 then " element" else " elements")
  | .missing field => "missing field `" ++ field ++ "`"
  | .duplicate field => "duplicate field `" ++ field ++ "`"

inductive Site where
  | whole
  | field (name : String)
  | item (index : Nat)
  deriving DecidableEq, Repr

def Site.describe : Site → String
  | .whole => ""
  | .field name => name ++ ": "
  | .item index => "[" ++ toString index ++ "]: "

inductive ReadProblem where
  | malformed
  | mismatch (site : Site) (complaint : Complaint) (rest : List UInt8)

def readFound (cs : List UInt8) : Except ReadProblem (Found × List UInt8) :=
  let orMalformed {α : Type} : Option α → Except ReadProblem α
    | some a => .ok a
    | none => .error .malformed
  match cs with
  | 0x6e :: rest => do return (.null, ← orMalformed (expect "ull".toUTF8.toList rest))
  | 0x74 :: rest => do return (.bool true, ← orMalformed (expect "rue".toUTF8.toList rest))
  | 0x66 :: rest => do return (.bool false, ← orMalformed (expect "alse".toUTF8.toList rest))
  | 0x22 :: rest => do
      let (value, rest) ← orMalformed (readString rest)
      return (.string value, rest)
  | 0x5b :: _ => .ok (.list, cs)
  | 0x7b :: _ => .ok (.record, cs)
  | b :: _ =>
      if b == 0x2d || isDigitByte b then do
        match ← orMalformed (readNumeral cs) with
        | (.natural n, rest) => return (.natural n, rest)
        | (.negative n, rest) => return (.negative n, rest)
        | (.float x, rest) => return (.float x, rest)
      else .error .malformed
  | [] => .error .malformed

def rejectValue {α : Type} (site : Site) (expected : String) (cs : List UInt8) :
    Except ReadProblem α :=
  match readFound cs with
  | .error problem => .error problem
  | .ok (found, rest) => .error (.mismatch site (.wrongType found expected) rest)

def readText (site : Site) (cs : List UInt8) : Except ReadProblem (FieldValue × List UInt8) :=
  match cs with
  | 0x22 :: rest =>
      match readString rest with
      | some (value, rest) => .ok (.text value, rest)
      | none => .error .malformed
  | _ => rejectValue site FieldKind.text.expected cs

def readCount (site : Site) (cs : List UInt8) : Except ReadProblem (FieldValue × List UInt8) :=
  match cs with
  | [] => .error .malformed
  | b :: _ =>
      if b == 0x2d || isDigitByte b then
        match readNumeral cs with
        | none => .error .malformed
        | some (.natural n, rest) => .ok (.count n, rest)
        | some (.negative n, rest) => .error (.mismatch site (.belowZero n) rest)
        | some (.float x, rest) =>
            .error (.mismatch site (.wrongType (.float x) FieldKind.count.expected) rest)
      else rejectValue site FieldKind.count.expected cs

def readValue (kind : FieldKind) (site : Site) (cs : List UInt8) :
    Except ReadProblem (FieldValue × List UInt8) :=
  match kind with
  | .text => readText site (skipBlanks cs)
  | .count => readCount site (skipBlanks cs)

abbrev Fields := List (String × FieldValue)

def collectFields (read : Fields) : List (String × FieldKind) → Except String (List FieldValue)
  | [] => .ok []
  | (name, _) :: rest =>
      match read.lookup name with
      | none => .error name
      | some value => do return value :: (← collectFields read rest)

def pastRecordEnd (cs : List UInt8) : List UInt8 :=
  match skipBlanks cs with
  | 0x7d :: rest => rest
  | rest => rest

def expectColon (cs : List UInt8) : Except ReadProblem (List UInt8) :=
  match skipBlanks cs with
  | 0x3a :: rest => .ok rest
  | _ => .error .malformed

def readEntry (form : RecordForm) (read : Fields) (cs : List UInt8) :
    Except ReadProblem (Fields × List UInt8) :=
  match readString cs with
  | none => .error .malformed
  | some (key, rest) =>
      match form.fields.lookup key with
      | none => do
          match skipValue (← expectColon rest) with
          | none => .error .malformed
          | some rest => return (read, rest)
      | some kind =>
          if (read.lookup key).isSome then
            .error (.mismatch .whole (.duplicate key) (pastRecordEnd rest))
          else do
            let (value, rest) ← readValue kind (.field key) (← expectColon rest)
            return ((key, value) :: read, rest)

def readEntries (form : RecordForm) : Nat → Bool → Fields → List UInt8 →
    Except ReadProblem (List FieldValue × List UInt8)
  | 0, _, _, _ => .error .malformed
  | fuel + 1, isFirst, read, cs =>
      let entry (cs : List UInt8) := do
        let (read, rest) ← readEntry form read cs
        readEntries form fuel false read rest
      match skipBlanks cs with
      | 0x7d :: rest =>
          match collectFields read form.fields with
          | .ok values => .ok (values, rest)
          | .error name => .error (.mismatch .whole (.missing name) rest)
      | 0x22 :: rest => if isFirst then entry rest else .error .malformed
      | 0x2c :: rest =>
          if isFirst then .error .malformed
          else match skipBlanks rest with
            | 0x22 :: rest => entry rest
            | _ => .error .malformed
      | _ => .error .malformed

def readItems (form : RecordForm) (index : Nat) : List (String × FieldKind) → List UInt8 →
    Except ReadProblem (List FieldValue × List UInt8)
  | [], cs =>
      match skipBlanks cs with
      | 0x5d :: rest => .ok ([], rest)
      | _ => .error .malformed
  | (_, kind) :: fields, cs =>
      let item (cs : List UInt8) := do
        let (value, rest) ← readValue kind (.item index) cs
        let (values, rest) ← readItems form (index + 1) fields rest
        return (value :: values, rest)
      match skipBlanks cs with
      | [] => .error .malformed
      | 0x5d :: rest => .error (.mismatch .whole (.wrongLength index form) rest)
      | b :: rest =>
          if index = 0 then item (b :: rest)
          else if b == 0x2c then
            match skipBlanks rest with
            | 0x5d :: _ => .error .malformed
            | rest => item rest
          else .error .malformed

def readFields (form : RecordForm) (cs : List UInt8) :
    Except ReadProblem (List FieldValue × List UInt8) :=
  match skipBlanks cs with
  | 0x7b :: rest => readEntries form (rest.length + 1) true [] rest
  | 0x5b :: rest => readItems form 0 form.fields rest
  | cs => rejectValue .whole form.expected cs

def readRecord (form : RecordForm) (cs : List UInt8) : Except ReadProblem (List FieldValue) :=
  match readFields form cs with
  | .error problem => .error problem
  | .ok (values, rest) =>
      if (skipBlanks rest).isEmpty then .ok values else .error .malformed

def endPosition (read : List UInt8) : Nat × Nat :=
  read.foldl (fun (line, column) (b : UInt8) =>
    if b == 0x0a then (line + 1, 0) else (line, column + 1)) (1, 0)

def describeMismatch (document : List UInt8) (site : Site) (complaint : Complaint)
    (rest : List UInt8) : String :=
  let (line, column) := endPosition (document.take (document.length - rest.length))
  site.describe ++ complaint.describe ++ " at line " ++ toString line ++ " column " ++
    toString column

end ImageIntake.Json
