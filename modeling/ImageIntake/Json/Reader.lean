import ImageIntake.Json.Numeral
import ImageIntake.Text.CodeRanges

namespace ImageIntake.Json

open Text

def isJsonBlank (b : UInt8) : Bool :=
  b == 0x20 || b == 0x0a || b == 0x0d || b == 0x09

def skipBlanks (cs : List UInt8) : List UInt8 :=
  cs.dropWhile isJsonBlank

def expect (word cs : List UInt8) : Option (List UInt8) :=
  word.isPrefixOf? cs

def readHexUnit (cs : List UInt8) : Option (Nat × List UInt8) :=
  match cs with
  | a :: b :: c :: d :: rest => do
      let a ← hexValue? (Char.ofNat a.toNat)
      let b ← hexValue? (Char.ofNat b.toNat)
      let c ← hexValue? (Char.ofNat c.toNat)
      let d ← hexValue? (Char.ofNat d.toNat)
      some (((a * 16 + b) * 16 + c) * 16 + d, rest)
  | _ => none

def simpleEscape? (b : UInt8) : Option UInt8 :=
  if b == 0x22 || b == 0x5c || b == 0x2f then some b
  else if b == 0x62 then some 0x08
  else if b == 0x66 then some 0x0c
  else if b == 0x6e then some 0x0a
  else if b == 0x72 then some 0x0d
  else if b == 0x74 then some 0x09
  else none

def readEscapedChar (cs : List UInt8) : Option (ByteArray × List UInt8) := do
  let (unit, rest) ← readHexUnit cs
  if 0xdc00 ≤ unit ∧ unit ≤ 0xdfff then none
  else if 0xd800 ≤ unit ∧ unit ≤ 0xdbff then
    match rest with
    | 0x5c :: 0x75 :: rest =>
        let (low, rest) ← readHexUnit rest
        if 0xdc00 ≤ low ∧ low ≤ 0xdfff then
          let code := 0x10000 + (unit - 0xd800) * 0x400 + (low - 0xdc00)
          some ((String.singleton (Char.ofNat code)).toUTF8, rest)
        else none
    | _ => none
  else some ((String.singleton (Char.ofNat unit)).toUTF8, rest)

def readStringBytes : Nat → ByteArray → List UInt8 → Reading ByteArray
  | 0, _, _ => none
  | _, _, [] => none
  | fuel + 1, read, b :: rest =>
      if b == 0x22 then some (read, rest)
      else if b == 0x5c then
        match rest with
        | [] => none
        | 0x75 :: rest =>
            match readEscapedChar rest with
            | none => none
            | some (char, rest) => readStringBytes fuel (read ++ char) rest
        | mark :: rest =>
            match simpleEscape? mark with
            | none => none
            | some byte => readStringBytes fuel (read.push byte) rest
      else if b < 0x20 then none
      else readStringBytes fuel (read.push b) rest

def readString (cs : List UInt8) : Option (String × List UInt8) := do
  let (bytes, rest) ← readStringBytes (cs.length + 1) .empty cs
  let text ← String.fromUTF8? bytes
  some (text, rest)

inductive Bracket where
  | list
  | record
  deriving DecidableEq

inductive Place where
  | value
  | firstItem
  | firstKey
  | key
  | colon
  | afterValue
  | inString (isKey : Bool)
  | inEscape (isKey : Bool)
  | inHex (isKey : Bool) (left : Nat)
  | inWord (rest : List UInt8)
  | numberStart
  | integer
  | integerEnd
  | fractionStart
  | fraction
  | exponentSign
  | exponentStart
  | exponent

inductive Move where
  | goTo (place : Place) (opened : List Bracket)
  | fail

def Place.afterString (isKey : Bool) : Place := if isKey then .colon else .afterValue

def beginValue (opened : List Bracket) (b : UInt8) : Move :=
  if b == 0x22 then .goTo (.inString false) opened
  else if b == 0x5b then .goTo .firstItem (.list :: opened)
  else if b == 0x7b then .goTo .firstKey (.record :: opened)
  else if b == 0x6e then .goTo (.inWord "ull".toUTF8.toList) opened
  else if b == 0x74 then .goTo (.inWord "rue".toUTF8.toList) opened
  else if b == 0x66 then .goTo (.inWord "alse".toUTF8.toList) opened
  else if b == 0x2d then .goTo .numberStart opened
  else if b == 0x30 then .goTo .integerEnd opened
  else if (digit? b).isSome then .goTo .integer opened
  else .fail

def followValue (opened : List Bracket) (b : UInt8) : Move :=
  if isJsonBlank b then .goTo .afterValue opened
  else match opened with
    | [] => .fail
    | .list :: outer =>
        if b == 0x2c then .goTo .value opened
        else if b == 0x5d then .goTo .afterValue outer
        else .fail
    | .record :: outer =>
        if b == 0x2c then .goTo .key opened
        else if b == 0x7d then .goTo .afterValue outer
        else .fail

def isDigitByte (b : UInt8) : Bool := (digit? b).isSome

def move (opened : List Bracket) (b : UInt8) : Place → Move
  | .value => if isJsonBlank b then .goTo .value opened else beginValue opened b
  | .firstItem =>
      if isJsonBlank b then .goTo .firstItem opened
      else if b == 0x5d then .goTo .afterValue opened.tail
      else beginValue opened b
  | .firstKey =>
      if isJsonBlank b then .goTo .firstKey opened
      else if b == 0x7d then .goTo .afterValue opened.tail
      else if b == 0x22 then .goTo (.inString true) opened
      else .fail
  | .key =>
      if isJsonBlank b then .goTo .key opened
      else if b == 0x22 then .goTo (.inString true) opened
      else .fail
  | .colon =>
      if isJsonBlank b then .goTo .colon opened
      else if b == 0x3a then .goTo .value opened
      else .fail
  | .afterValue => followValue opened b
  | .inString isKey =>
      if b == 0x22 then .goTo (.afterString isKey) opened
      else if b == 0x5c then .goTo (.inEscape isKey) opened
      else if b < 0x20 then .fail
      else .goTo (.inString isKey) opened
  | .inEscape isKey =>
      if b == 0x75 then .goTo (.inHex isKey 4) opened
      else if (simpleEscape? b).isSome then .goTo (.inString isKey) opened
      else .fail
  | .inHex isKey left =>
      if (hexValue? (Char.ofNat b.toNat)).isNone then .fail
      else if left ≤ 1 then .goTo (.inString isKey) opened
      else .goTo (.inHex isKey (left - 1)) opened
  | .inWord [] => followValue opened b
  | .inWord (expected :: rest) =>
      if b != expected then .fail
      else if rest.isEmpty then .goTo .afterValue opened
      else .goTo (.inWord rest) opened
  | .numberStart =>
      if b == 0x30 then .goTo .integerEnd opened
      else if isDigitByte b then .goTo .integer opened
      else .fail
  | .integer =>
      if isDigitByte b then .goTo .integer opened
      else if b == 0x2e then .goTo .fractionStart opened
      else if isExponentMark b then .goTo .exponentSign opened
      else followValue opened b
  | .integerEnd =>
      if isDigitByte b then .fail
      else if b == 0x2e then .goTo .fractionStart opened
      else if isExponentMark b then .goTo .exponentSign opened
      else followValue opened b
  | .fractionStart => if isDigitByte b then .goTo .fraction opened else .fail
  | .fraction =>
      if isDigitByte b then .goTo .fraction opened
      else if isExponentMark b then .goTo .exponentSign opened
      else followValue opened b
  | .exponentSign =>
      if b == 0x2b || b == 0x2d then .goTo .exponentStart opened
      else if isDigitByte b then .goTo .exponent opened
      else .fail
  | .exponentStart => if isDigitByte b then .goTo .exponent opened else .fail
  | .exponent => if isDigitByte b then .goTo .exponent opened else followValue opened b

def mayEndBefore (b : UInt8) : Place → Bool
  | .afterValue => true
  | .integer => !(isDigitByte b || b == 0x2e || isExponentMark b)
  | .integerEnd => !(isDigitByte b || b == 0x2e || isExponentMark b)
  | .fraction => !(isDigitByte b || isExponentMark b)
  | .exponent => !isDigitByte b
  | _ => false

def mayEndAtEnd : Place → Bool
  | .afterValue => true
  | .integer => true
  | .integerEnd => true
  | .fraction => true
  | .exponent => true
  | _ => false

def skipValueFrom (place : Place) (opened : List Bracket) : List UInt8 → Option (List UInt8)
  | [] => if opened.isEmpty && mayEndAtEnd place then some [] else none
  | b :: rest =>
      if opened.isEmpty && mayEndBefore b place then some (b :: rest)
      else match move opened b place with
        | .fail => none
        | .goTo place opened => skipValueFrom place opened rest

def skipValue (cs : List UInt8) : Option (List UInt8) :=
  skipValueFrom .value [] cs

end ImageIntake.Json
