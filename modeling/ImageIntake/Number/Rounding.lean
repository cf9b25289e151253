namespace ImageIntake.Number

def roundHalfEven (n d : Nat) : Nat :=
  let q := n / d
  let r := n % d
  if 2 * r < d then q
  else if d < 2 * r then q + 1
  else if q % 2 = 0 then q else q + 1

def roundHalfUp (n d : Nat) : Nat :=
  (2 * n + d) / (2 * d)

theorem roundHalfEven_mul_le {n d : Nat} (hd : 0 < d) :
    2 * (roundHalfEven n d * d) ≤ 2 * n + d := by
  have h := Nat.div_add_mod n d
  have hr := Nat.mod_lt n hd
  rw [Nat.mul_comm] at h
  unfold roundHalfEven
  simp only
  split
  · omega
  · split
    · rw [Nat.add_mul]; omega
    · split
      · omega
      · rw [Nat.add_mul]; omega

theorem le_roundHalfEven_mul {n d : Nat} (hd : 0 < d) :
    2 * n ≤ 2 * (roundHalfEven n d * d) + d := by
  have h := Nat.div_add_mod n d
  have hr := Nat.mod_lt n hd
  rw [Nat.mul_comm] at h
  unfold roundHalfEven
  simp only
  split
  · omega
  · split
    · rw [Nat.add_mul]; omega
    · split
      · omega
      · rw [Nat.add_mul]; omega

structure BinaryFraction where
  mantissa : Nat
  scale : Nat
  deriving DecidableEq, Repr

def precision : Nat := 53

def quotientShift (n d : Nat) : Nat :=
  let guess := precision + Nat.log2 d - Nat.log2 n
  if d <<< precision ≤ n <<< guess then guess - 1 else guess

def quotient (n d : Nat) : BinaryFraction :=
  let shift := quotientShift n d
  ⟨roundHalfEven (n <<< shift) d, shift⟩

def product (n : Nat) (x : BinaryFraction) : BinaryFraction :=
  let exact := n * x.mantissa
  let surplus := Nat.log2 exact + 1 - precision
  ⟨roundHalfEven exact (1 <<< surplus) <<< surplus, x.scale⟩

def BinaryFraction.round (x : BinaryFraction) : Nat := roundHalfUp x.mantissa (1 <<< x.scale)

end ImageIntake.Number
