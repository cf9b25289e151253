import ImageIntake.Text.CodeRanges
import ImageIntake.Text.Numeral

namespace ImageIntake.Url

open Text

def addressNumber? (part : List Char) : Option Nat :=
  let read (base : Nat) (digits : List Char) : Option Nat :=
    digits.foldl (fun total c => do
      let n ← total
      let d ← hexValue? c
      if d < base then some (n * base + d) else none) (some 0)
  match part with
  | [] => none
  | '0' :: 'x' :: digits => read 16 digits
  | '0' :: 'X' :: digits => read 16 digits
  | '0' :: digit :: digits => read 8 (digit :: digits)
  | digits => read 10 digits

def dottedParts (host : List Char) : List (List Char) :=
  let parts := host.splitOn '.'
  if parts.getLast? = some [] then parts.dropLast else parts

def endsInNumber (host : List Char) : Bool :=
  match (dottedParts host).getLast? with
  | none => false
  | some [] => false
  | some part => part.all Char.isDigit || (addressNumber? part).isSome

def ipv4? (host : List Char) : Option Nat := do
  let parts := dottedParts host
  if parts.length > 4 then none
  let numbers ← parts.mapM addressNumber?
  let last ← numbers.getLast?
  let bytes := numbers.dropLast
  if bytes.any (· > 255) then none
  if last ≥ 1 <<< (8 * (4 - bytes.length)) then none
  some (bytes.foldl (fun n b => n * 256 + b) 0 <<< (8 * (4 - bytes.length)) + last)

def hexPiece (cs : List Char) : List Char × List Char :=
  let digits := (cs.take 4).takeWhile fun c => (hexValue? c).isSome
  (digits, cs.drop digits.length)

def decimalByte? (cs : List Char) : Option Nat :=
  match cs with
  | [] => none
  | ['0'] => some 0
  | '0' :: _ => none
  | _ =>
      match readDigits 255 0 cs with
      | .ok n => some n
      | .error _ => none

def dottedPieces? (cs : List Char) : Option (List Nat) := do
  let [a, b, c, d] ← (cs.splitOn '.').mapM decimalByte? | none
  some [a * 256 + b, c * 256 + d]

def ipv6Pieces? : Nat → Option (List Nat) → List Nat → List Char → Option (List Nat)
  | 0, _, _, _ => none
  | fuel + 1, before, pieces, cs =>
      let count := (before.getD []).length + pieces.length
      let finish (pieces : List Nat) : Option (List Nat) :=
        match before with
        | none => if pieces.length = 8 then some pieces.reverse else none
        | some ahead =>
            if ahead.length + pieces.length < 8 then
              some (ahead ++ List.replicate (8 - ahead.length - pieces.length) 0 ++ pieces.reverse)
            else none
      match cs with
      | [] => finish pieces
      | ':' :: rest =>
          if count ≥ 8 then none
          else if before.isSome then none
          else ipv6Pieces? fuel (some pieces.reverse) [] rest
      | _ =>
          if count ≥ 8 then none
          else
            let (digits, rest) := hexPiece cs
            match rest with
            | '.' :: _ =>
                if digits.isEmpty || count > 6 then none
                else (dottedPieces? cs).bind fun two => finish (two.reverse ++ pieces)
            | [] => if digits.isEmpty then none else finish (hexNumber digits :: pieces)
            | [':'] => none
            | ':' :: rest =>
                if digits.isEmpty then none
                else ipv6Pieces? fuel before (hexNumber digits :: pieces) rest
            | _ => none

def ipv6? (cs : List Char) : Option (List Nat) :=
  match cs with
  | ':' :: ':' :: rest => ipv6Pieces? (cs.length + 1) (some []) [] rest
  | ':' :: _ => none
  | _ => ipv6Pieces? (cs.length + 1) none [] cs

end ImageIntake.Url
