namespace ImageIntake.Text

inductive NumeralError where
  | invalidDigit
  | tooLarge
  deriving DecidableEq, Repr

def NumeralError.message : NumeralError → String
  | .invalidDigit => "invalid digit found in string"
  | .tooLarge => "number too large to fit in target type"

def digitValue? (c : Char) : Option Nat :=
  if '0' ≤ c ∧ c ≤ '9' then some (c.toNat - 48) else none

def readDigits (largest : Nat) : Nat → List Char → Except NumeralError Nat
  | n, [] => .ok n
  | n, c :: rest =>
      match digitValue? c with
      | none => .error .invalidDigit
      | some d =>
          if n * 10 + d ≤ largest then readDigits largest (n * 10 + d) rest
          else .error .tooLarge

def readNumeral (largest : Nat) (s : String) : Except NumeralError Nat :=
  match s.toList with
  | [] => .error .invalidDigit
  | '+' :: [] => .error .invalidDigit
  | '+' :: rest => readDigits largest 0 rest
  | cs => readDigits largest 0 cs

def largest16 : Nat := 65535

def largest64 : Nat := 18446744073709551615

def padded (width n : Nat) : String :=
  let digits := Nat.toDigits 10 n
  String.ofList (List.replicate (width - digits.length) '0' ++ digits)

end ImageIntake.Text
