namespace ImageIntake.Number

structure Binary where
  mantissa : Nat
  exponent : Int
  below : Nat
  above : Nat

def Binary.ofBits (bits : UInt64) : Binary :=
  let fraction : Nat := bits.toNat % 1 <<< 52
  let biased : Nat := bits.toNat >>> 52 % 1 <<< 11
  if biased = 0 then ⟨fraction, -1074, 2, 2⟩
  else ⟨1 <<< 52 + fraction, biased - 1075, if fraction = 0 && biased > 1 then 1 else 2, 2⟩

structure Decimal where
  digits : Nat
  exponent : Int
  deriving DecidableEq, Repr

namespace Binary

def gridStep (x : Binary) (k : Int) : Nat × Nat :=
  let e := x.exponent - 2
  (Nat.pow 10 k.toNat <<< (-e).toNat, Nat.pow 10 (-k).toNat <<< e.toNat)

def holds (x : Binary) (step : Nat × Nat) (d : Nat) : Bool :=
  let point := d * step.1
  let low := (4 * x.mantissa - x.below) * step.2
  let high := (4 * x.mantissa + x.above) * step.2
  if x.mantissa % 2 = 0 then low ≤ point && point ≤ high else low < point && point < high

def gridPoint? (x : Binary) (k : Int) : Option Nat :=
  let step := x.gridStep k
  let value := 4 * x.mantissa * step.2
  let d := value / step.1
  match decide (0 < d) && x.holds step d, x.holds step (d + 1) with
  | false, false => none
  | true, false => some d
  | false, true => some (d + 1)
  | true, true =>
      let down := value - d * step.1
      let up := (d + 1) * step.1 - value
      if down < up || (down == up && d % 2 == 0) then some d else some (d + 1)

def shortestFrom (x : Binary) (k : Int) : Nat → Decimal
  | 0 => ⟨x.mantissa, 0⟩
  | fuel + 1 =>
      match x.gridPoint? k with
      | some d => ⟨d, k⟩
      | none => x.shortestFrom (k - 1) fuel

def shortest (x : Binary) : Decimal := x.shortestFrom 309 651

end Binary

def isPositional (exponent : Int) : Bool := -5 ≤ exponent && exponent ≤ 15

def Decimal.text (d : Decimal) : List Char :=
  let digits := Nat.toDigits 10 d.digits
  let scale := d.exponent + (digits.length : Int) - 1
  if isPositional scale then
    if 0 ≤ d.exponent then digits ++ List.replicate d.exponent.toNat '0' ++ ['.', '0']
    else if 0 ≤ scale then
      digits.take (scale.toNat + 1) ++ '.' :: digits.drop (scale.toNat + 1)
    else ['0', '.'] ++ List.replicate (-scale - 1).toNat '0' ++ digits
  else
    let power := Nat.toDigits 10 scale.natAbs
    let fraction := if digits.length = 1 then [] else '.' :: digits.drop 1
    digits.take 1 ++ fraction ++ ['e', if scale < 0 then '-' else '+'] ++
      List.replicate (2 - power.length) '0' ++ power

def floatText (x : Float) : String :=
  let bits := x.toBits
  let sign := if bits.toNat ≥ 1 <<< 63 then ['-'] else []
  let magnitude := UInt64.ofNat (bits.toNat % 1 <<< 63)
  String.ofList (sign ++
    if magnitude == 0 then ['0', '.', '0'] else (Binary.ofBits magnitude).shortest.text)

end ImageIntake.Number
