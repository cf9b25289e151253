namespace ImageIntake.Url

def punycodeDigit? (c : Char) : Option Nat :=
  if 'a' ≤ c ∧ c ≤ 'z' then some (c.toNat - 97)
  else if 'A' ≤ c ∧ c ≤ 'Z' then some (c.toNat - 65)
  else if '0' ≤ c ∧ c ≤ '9' then some (c.toNat - 22)
  else none

def biasSteps (delta steps : Nat) : Nat × Nat :=
  if h : 455 < delta then biasSteps (delta / 35) (steps + 36) else (delta, steps)
termination_by delta
decreasing_by omega

def adaptBias (delta count : Nat) (isFirst : Bool) : Nat :=
  let scaled := if isFirst then delta / 700 else delta / 2
  let (rest, steps) := biasSteps (scaled + scaled / count) 0
  steps + 36 * rest / (rest + 38)

def punycodeNumber? (bias total weight place : Nat) : List Char → Option (Nat × List Char)
  | [] => none
  | c :: rest =>
      match punycodeDigit? c with
      | none => none
      | some digit =>
          let threshold := min 26 (max 1 (place - bias))
          if digit < threshold then some (total + digit * weight, rest)
          else punycodeNumber? bias (total + digit * weight) (weight * (36 - threshold))
            (place + 36) rest

theorem punycodeNumber?_length {bias total weight place n : Nat} {cs rest : List Char}
    (h : punycodeNumber? bias total weight place cs = some (n, rest)) :
    rest.length < cs.length := by
  induction cs generalizing total weight place with
  | nil => simp [punycodeNumber?] at h
  | cons c cs ih =>
      simp only [punycodeNumber?] at h
      split at h
      · simp at h
      · split at h
        · simp only [Option.some.injEq, Prod.mk.injEq] at h
          simp [← h.2]
        · have := ih h
          simp only [List.length_cons]
          omega

def insertByNumbers (code position bias : Nat) (isFirst : Bool) (label cs : List Char) :
    Option (List Char) :=
  if cs.isEmpty then some label
  else
    match _h : punycodeNumber? bias position 1 36 cs with
    | none => none
    | some (n, rest) =>
        let count := label.length + 1
        let next := code + n / count
        if next > 0x10ffff || (0xd800 ≤ next && next ≤ 0xdfff) then none
        else
          let place := n % count
          insertByNumbers next (place + 1) (adaptBias (n - position) count isFirst) false
            (label.take place ++ Char.ofNat next :: label.drop place) rest
termination_by cs.length
decreasing_by exact punycodeNumber?_length _h

def punycodeDecode? (spelling : List Char) : Option (List Char) :=
  let reversed := spelling.reverse
  let (kept, digits) :=
    if spelling.contains '-' then
      ((reversed.dropWhile (· != '-')).drop 1 |>.reverse, reversed.takeWhile (· != '-') |>.reverse)
    else ([], spelling)
  insertByNumbers 128 0 72 true kept digits

end ImageIntake.Url
