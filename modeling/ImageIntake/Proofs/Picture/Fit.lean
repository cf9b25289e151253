import ImageIntake.Picture.Fit
import ImageIntake.Proofs.Number.Rounding

namespace ImageIntake

open Number

structure IsScaled (limit longest side scaled : Nat) : Prop where
  pos : 1 ≤ scaled
  le_side : scaled ≤ side
  le_limit : scaled ≤ limit
  near : |(scaled * longest - side * limit : ℤ)| < longest
  nearest : limit ≤ 65536 → longest ≤ side * limit * 2 →
    |(2 * scaled * longest - 2 * side * limit : ℤ)| ≤ longest

def roundedSide (limit longest side : Nat) : Nat := (product side (quotient limit longest)).round

section

variable {limit longest side : Nat}

theorem le_of_mul_lt_add {a b : Nat} (h : a * longest < b * longest + longest) : a ≤ b := by
  have hlt : a * longest < (b + 1) * longest := by rwa [Nat.add_mul, Nat.one_mul]
  exact Nat.lt_succ_iff.mp (Nat.lt_of_mul_lt_mul_right hlt)

variable (hlimit : 0 < limit) (hle : limit ≤ longest)

include hlimit hle

theorem abs_roundedSide_sub_le (hside : side ≤ longest) :
    |(roundedSide limit longest side * longest - side * limit : ℚ)| ≤
      (1 / 2 + limit / 2 ^ 51) * longest := by
  have hlongest : (0 : ℚ) < longest := by exact_mod_cast Nat.lt_of_lt_of_le hlimit hle
  have hround := (product side (quotient limit longest)).abs_round_sub_le
  have hproduct := abs_product_quotient_sub_le side hlimit hle
  have hbound : (side * limit / longest : ℚ) ≤ limit := by
    rw [div_le_iff₀ hlongest, mul_comm]
    exact mul_le_mul_of_nonneg_left (by exact_mod_cast hside) (by positivity)
  refine (abs_sub_div_le_iff hlongest).mp ?_
  rw [abs_le] at hround hproduct ⊢
  rw [roundedSide]
  constructor
  · linarith
  · linarith

variable (hlongest : longest < 2 ^ 32)

include hlongest

theorem abs_roundedSide_sub_lt (hside : side ≤ longest) :
    |(roundedSide limit longest side * longest - side * limit : ℤ)| < longest := by
  have hlt : (0 : ℚ) < longest := by exact_mod_cast Nat.lt_of_lt_of_le hlimit hle
  have hlimit' : (limit : ℚ) ≤ 2 ^ 32 := by exact_mod_cast Nat.le_of_lt (hle.trans_lt hlongest)
  have hsmall : (1 / 2 + limit / 2 ^ 51 : ℚ) < 1 := by linarith
  have hround := (abs_roundedSide_sub_le hlimit hle hside).trans_lt
    (mul_lt_mul_of_pos_right hsmall hlt)
  rw [one_mul] at hround
  exact_mod_cast hround

theorem abs_two_mul_roundedSide_sub_le (hside : side ≤ longest) (hsmall : limit ≤ 65536) :
    |(2 * roundedSide limit longest side * longest - 2 * side * limit : ℤ)| ≤ longest := by
  have hlimit' : (limit : ℚ) ≤ 65536 := by exact_mod_cast hsmall
  have hlongest' : (longest : ℚ) < 2 ^ 32 := by exact_mod_cast hlongest
  have herror : (limit / 2 ^ 51 * longest : ℚ) ≤ 1 / 4 := by
    calc (limit / 2 ^ 51 * longest : ℚ) ≤ 65536 / 2 ^ 51 * 2 ^ 32 :=
          mul_le_mul (by linarith) hlongest'.le (by positivity) (by positivity)
      _ ≤ 1 / 4 := by norm_num
  have hround := abs_roundedSide_sub_le hlimit hle hside
  -- both sides are whole numbers, so an error below one does not show
  have hlt : |(2 * roundedSide limit longest side * longest - 2 * side * limit : ℚ)| <
      longest + 1 := by
    rw [abs_le] at hround
    rw [abs_lt]
    constructor
    · linarith
    · linarith
  exact Int.lt_add_one_iff.mp (by exact_mod_cast hlt)

theorem roundedSide_mul_lt (hside : side ≤ longest) :
    roundedSide limit longest side * longest < side * limit + longest := by
  have hround := (abs_lt.mp (abs_roundedSide_sub_lt hlimit hle hlongest hside)).2
  exact_mod_cast sub_lt_iff_lt_add'.mp hround

theorem roundedSide_le_side (hside : side ≤ longest) : roundedSide limit longest side ≤ side := by
  have hround := roundedSide_mul_lt hlimit hle hlongest hside
  have hmul : side * limit ≤ side * longest := Nat.mul_le_mul_left side hle
  exact le_of_mul_lt_add (hround.trans_le (Nat.add_le_add_right hmul longest))

theorem roundedSide_le_limit (hside : side ≤ longest) :
    roundedSide limit longest side ≤ limit := by
  have hround := roundedSide_mul_lt hlimit hle hlongest hside
  have hmul : side * limit ≤ limit * longest := by
    rw [Nat.mul_comm]
    exact Nat.mul_le_mul_left limit hside
  exact le_of_mul_lt_add (hround.trans_le (Nat.add_le_add_right hmul longest))

theorem roundedSide_longest : roundedSide limit longest longest = limit := by
  refine Nat.le_antisymm (roundedSide_le_limit hlimit hle hlongest le_rfl) ?_
  have hround := (abs_lt.mp (abs_roundedSide_sub_lt hlimit hle hlongest le_rfl)).1
  have hlt : limit * longest < roundedSide limit longest longest * longest + longest := by
    rw [Nat.mul_comm limit, Nat.add_comm]
    exact_mod_cast neg_lt_sub_iff_lt_add.mp hround
  exact le_of_mul_lt_add hlt

theorem isScaled_one (hpos : 0 < side) (hside : side ≤ longest)
    (hzero : roundedSide limit longest side = 0) : IsScaled limit longest side 1 := by
  have hmul : (0 : ℤ) < side * limit := by exact_mod_cast Nat.mul_pos hpos hlimit
  have hnear := abs_roundedSide_sub_lt hlimit hle hlongest hside
  rw [hzero, abs_lt] at hnear
  refine ⟨le_rfl, hpos, hlimit, ?_, ?_⟩
  · push_cast at hnear ⊢
    rw [abs_lt]
    constructor
    · linarith
    · linarith
  · intro hsmall hhalf
    have hhalf' : (longest : ℤ) ≤ side * limit * 2 := by exact_mod_cast hhalf
    have hnearest := abs_two_mul_roundedSide_sub_le hlimit hle hlongest hside hsmall
    rw [hzero, abs_le] at hnearest
    push_cast at hnearest ⊢
    rw [abs_le]
    constructor
    · linarith
    · linarith

theorem isScaled_scaledSide (hpos : 0 < side) (hside : side ≤ longest) :
    IsScaled limit longest side (scaledSide (quotient limit longest) limit side) := by
  have hbound := roundedSide_le_limit hlimit hle hlongest hside
  rw [scaledSide, ← roundedSide]
  rcases Nat.eq_zero_or_pos (roundedSide limit longest side) with hzero | hone
  · rw [hzero, Nat.max_eq_left (Nat.zero_le 1), Nat.min_eq_right hlimit]
    exact isScaled_one hlimit hle hlongest hpos hside hzero
  · rw [Nat.max_eq_right hone, Nat.min_eq_right hbound]
    exact {
      pos := hone
      le_side := roundedSide_le_side hlimit hle hlongest hside
      le_limit := hbound
      near := abs_roundedSide_sub_lt hlimit hle hlongest hside
      nearest := fun hsmall _ =>
        abs_two_mul_roundedSide_sub_le hlimit hle hlongest hside hsmall }

theorem scaledSide_longest : scaledSide (quotient limit longest) limit longest = limit := by
  rw [scaledSide, ← roundedSide, roundedSide_longest hlimit hle hlongest,
    Nat.max_eq_right hlimit, Nat.min_self]

end

section

variable {width height bound : Nat}

theorem fitWithin_of_le (h : max width height ≤ max bound 1) :
    fitWithin width height bound = (width, height) := if_pos h

theorem fitWithin_of_lt (h : max bound 1 < max width height) :
    fitWithin width height bound =
      (scaledSide (quotient (max bound 1) (max width height)) (max bound 1) width,
        scaledSide (quotient (max bound 1) (max width height)) (max bound 1) height) :=
  if_neg (Nat.not_le.mpr h)

theorem fitWithin_swap (width height bound : Nat) :
    fitWithin height width bound = (fitWithin width height bound).swap := by
  rw [fitWithin, fitWithin, Nat.max_comm height width]
  split <;> rfl

theorem fitWithin_snd_of_le (hheight : height < 2 ^ 32) (hle : width ≤ height)
    (h : max bound 1 < max width height) : (fitWithin width height bound).2 = max bound 1 := by
  rw [fitWithin_of_lt h]
  rw [Nat.max_eq_right hle] at h ⊢
  exact scaledSide_longest (Nat.le_max_right bound 1) h.le hheight

theorem isScaled_fitWithin (hwidth : 1 ≤ width) (hwidth' : width < 2 ^ 32) (hheight : 1 ≤ height)
    (hheight' : height < 2 ^ 32) (h : max bound 1 < max width height) :
    IsScaled (max bound 1) (max width height) width (fitWithin width height bound).1 ∧
      IsScaled (max bound 1) (max width height) height (fitWithin width height bound).2 := by
  have hlimit : 0 < max bound 1 := Nat.le_max_right bound 1
  have hlongest : max width height < 2 ^ 32 := Nat.max_lt.mpr ⟨hwidth', hheight'⟩
  rw [fitWithin_of_lt h]
  exact ⟨isScaled_scaledSide hlimit h.le hlongest hwidth (Nat.le_max_left width height),
    isScaled_scaledSide hlimit h.le hlongest hheight (Nat.le_max_right width height)⟩

theorem fitWithin_fst_le_snd (hwidth : 1 ≤ width) (hheight : height < 2 ^ 32)
    (hle : width ≤ height) :
    (fitWithin width height bound).1 ≤ (fitWithin width height bound).2 := by
  rcases Nat.lt_or_ge (max bound 1) (max width height) with h | h
  · rw [fitWithin_snd_of_le hheight hle h]
    exact (isScaled_fitWithin hwidth (hle.trans_lt hheight) (hwidth.trans hle) hheight h).1.le_limit
  · rw [fitWithin_of_le h]
    exact hle

theorem max_fitWithin (hwidth : 1 ≤ width) (hwidth' : width < 2 ^ 32) (hheight : 1 ≤ height)
    (hheight' : height < 2 ^ 32) (h : max bound 1 < max width height) :
    max (fitWithin width height bound).1 (fitWithin width height bound).2 = max bound 1 := by
  rcases Nat.le_total width height with hle | hle
  · rw [Nat.max_eq_right (fitWithin_fst_le_snd hwidth hheight' hle),
      fitWithin_snd_of_le hheight' hle h]
  · rw [Nat.max_comm width] at h
    rw [fitWithin_swap height width, Prod.fst_swap, Prod.snd_swap,
      Nat.max_eq_left (fitWithin_fst_le_snd hheight hwidth' hle),
      fitWithin_snd_of_le hwidth' hle h]

theorem fitWithin_keeps_proportions (bound : Nat) (hwidth : 1 ≤ width) (hwidth' : width < 2 ^ 32)
    (hheight : 1 ≤ height) (hheight' : height < 2 ^ 32) :
    (max width height ≤ max bound 1 → fitWithin width height bound = (width, height)) ∧
    (max bound 1 < max width height →
      IsScaled (max bound 1) (max width height) width (fitWithin width height bound).1 ∧
      IsScaled (max bound 1) (max width height) height (fitWithin width height bound).2 ∧
      max (fitWithin width height bound).1 (fitWithin width height bound).2 = max bound 1) ∧
    fitWithin height width bound = (fitWithin width height bound).swap ∧
    (width ≤ height → (fitWithin width height bound).1 ≤ (fitWithin width height bound).2) ∧
    fitWithin (fitWithin width height bound).1 (fitWithin width height bound).2 bound =
      fitWithin width height bound := by
  refine ⟨fitWithin_of_le, fun h => ?_, fitWithin_swap width height bound,
    fitWithin_fst_le_snd hwidth hheight', ?_⟩
  · obtain ⟨hfirst, hsecond⟩ := isScaled_fitWithin hwidth hwidth' hheight hheight' h
    exact ⟨hfirst, hsecond, max_fitWithin hwidth hwidth' hheight hheight' h⟩
  · rcases Nat.lt_or_ge (max bound 1) (max width height) with h | h
    · exact fitWithin_of_le (max_fitWithin hwidth hwidth' hheight hheight' h).le
    · rw [fitWithin_of_le h]
      exact fitWithin_of_le h

theorem fitWithin_keeps_proportions_half :
    (1 ≤ 4294967295 ∧ 4294967295 < 2 ^ 32) ∧ (1 ≤ 32769 ∧ 32769 < 2 ^ 32) ∧
      fitWithin 4294967295 32769 65535 = (65535, 1) ∧
      IsScaled 65535 4294967295 32769 1 ∧ fitWithin 65535 1 65535 = (65535, 1) := by
  have hsize : fitWithin 4294967295 32769 65535 = (65535, 1) := by decide +kernel
  have hwidth : 1 ≤ 4294967295 ∧ 4294967295 < 2 ^ 32 := by decide
  have hheight : 1 ≤ 32769 ∧ 32769 < 2 ^ 32 := by decide
  have hfit := fitWithin_keeps_proportions 65535 hwidth.1 hwidth.2 hheight.1 hheight.2
  rw [hsize] at hfit
  obtain ⟨-, hscaled, -, -, hagain⟩ := hfit
  exact ⟨hwidth, hheight, hsize, (hscaled (by decide)).2.1, hagain⟩

end

end ImageIntake
