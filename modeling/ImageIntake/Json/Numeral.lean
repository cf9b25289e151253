import ImageIntake.Number.Shortest

namespace ImageIntake.Json

inductive Numeral where
  | natural (n : Nat)
  | negative (n : Nat)
  | float (x : Float)

abbrev Reading (α : Type) := Option (α × List UInt8)

def digit? (b : UInt8) : Option Nat :=
  if 48 ≤ b && b ≤ 57 then some (b.toNat - 48) else none

def wordLimit : Nat := 1 <<< 64

def gatherDigits (n count : Nat) : List UInt8 → Nat × Nat × List UInt8
  | [] => (n, count, [])
  | b :: rest =>
      match digit? b with
      | none => (n, count, b :: rest)
      | some d =>
          if n * 10 + d < wordLimit then gatherDigits (n * 10 + d) (count + 1) rest
          else (n, count, b :: rest)

def countDigits (count : Nat) : List UInt8 → Nat × List UInt8
  | [] => (count, [])
  | b :: rest => if (digit? b).isSome then countDigits (count + 1) rest else (count, b :: rest)

def scale (negative : Bool) (significand : Nat) (exponent : Int) : Option Float :=
  let start := (UInt64.ofNat significand).toFloat
  let signed (x : Float) : Float := if negative then -x else x
  let power (k : Nat) : Float := Float.ofScientific 1 false k
  if 0 ≤ exponent then
    if exponent ≤ 308 then
      let x := start * power exponent.toNat
      if x.isInf then none else some (signed x)
    else if significand = 0 then some (signed start) else none
  else
    let steps := (exponent.natAbs - 1) / 308
    let rest := exponent.natAbs - steps * 308
    -- Three divisions by `10 ^ 308` leave nothing of a word.
    let lowered := (List.replicate (min steps 3) ()).foldl (fun x _ => x / power 308) start
    some (signed (lowered / power rest))

def exponentLimit : Nat := 1 <<< 31

def readExponent (negative : Bool) (significand : Nat) (shift : Int) (cs : List UInt8) :
    Reading Numeral :=
  let (down, cs) := match cs with
    | 0x2b :: rest => (false, rest)
    | 0x2d :: rest => (true, rest)
    | _ => (false, cs)
  let (digits, rest) := cs.span fun b => (digit? b).isSome
  if digits.isEmpty then none
  else
    let exponent := digits.foldl (fun n b => min (n * 10 + (b.toNat - 48)) exponentLimit) 0
    if exponent < exponentLimit then
      let total := if down then shift - exponent else shift + exponent
      (scale negative significand total).map fun x => (.float x, rest)
    else if significand ≠ 0 ∧ !down then none
    else some (.float (if negative then -0.0 else 0.0), rest)

def isExponentMark (b : UInt8) : Bool := b == 0x65 || b == 0x45

def finishFloat (negative : Bool) (significand : Nat) (shift : Int) (cs : List UInt8) :
    Reading Numeral :=
  match cs with
  | [] => (scale negative significand shift).map fun x => (.float x, [])
  | b :: rest =>
      if isExponentMark b then readExponent negative significand shift rest
      else (scale negative significand shift).map fun x => (.float x, cs)

def readFraction (negative : Bool) (significand : Nat) (shift : Int) (cs : List UInt8) :
    Reading Numeral :=
  let (n, count, rest) := gatherDigits significand 0 cs
  match rest with
  | b :: _ =>
      if (digit? b).isSome then
        finishFloat negative n (shift - count) (countDigits 0 rest).2
      else if count = 0 then none
      else finishFloat negative n (shift - count) rest
  | [] => if count = 0 then none else finishFloat negative n (shift - count) rest

def finishNumeral (negative : Bool) (n : Nat) (cs : List UInt8) : Reading Numeral :=
  let whole : Numeral :=
    if !negative then .natural n
    else if n = 0 || n > 1 <<< 63 then .float (-(UInt64.ofNat n).toFloat)
    else .negative n
  match cs with
  | [] => some (whole, [])
  | b :: rest =>
      if b == 0x2e then readFraction negative n 0 rest
      else if isExponentMark b then readExponent negative n 0 rest
      else some (whole, cs)

def readUnsigned (negative : Bool) (cs : List UInt8) : Reading Numeral :=
  match cs with
  | [] => none
  | 0x30 :: rest =>
      match rest with
      | b :: _ => if (digit? b).isSome then none else finishNumeral negative 0 rest
      | [] => finishNumeral negative 0 rest
  | b :: _ =>
      if (digit? b).isNone then none
      else
        let (n, _, rest) := gatherDigits 0 0 cs
        match rest with
        | next :: _ =>
            if (digit? next).isSome then
              let (dropped, rest) := countDigits 0 rest
              match rest with
              | 0x2e :: rest => readFraction negative n dropped rest
              | _ => finishFloat negative n dropped rest
            else finishNumeral negative n rest
        | [] => finishNumeral negative n rest

def readNumeral (cs : List UInt8) : Reading Numeral :=
  match cs with
  | 0x2d :: rest => readUnsigned true rest
  | _ => readUnsigned false cs

end ImageIntake.Json
