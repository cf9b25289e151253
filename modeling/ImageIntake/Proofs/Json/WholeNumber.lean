import ImageIntake.Json.Numeral
import ImageIntake.Proofs.Text.Numeral
import Mathlib.Algebra.Ring.Int.Defs

namespace ImageIntake.Json

open Text

def EndsNumber (rest : List UInt8) : Prop :=
  ∀ b ∈ rest.head?, digit? b = none ∧ b ≠ 0x2e ∧ isExponentMark b = false

theorem endsNumber_nil : EndsNumber [] := nofun

theorem endsNumber_cons {b : UInt8} {rest : List UInt8}
    (h : digit? b = none ∧ b ≠ 0x2e ∧ isExponentMark b = false) : EndsNumber (b :: rest) := by
  rintro c ⟨⟩
  exact h

theorem digit?_asciiByte {c : Char} (h : c.isDigit = true) :
    digit? (asciiByte c) = some (c.toNat - 48) := by
  have hc := toNat_of_isDigit h
  have hbyte : (asciiByte c).toNat = c.toNat := toNat_asciiByte (by omega)
  have hrange : (48 ≤ asciiByte c && asciiByte c ≤ 57) = true := by
    simp only [Bool.and_eq_true, decide_eq_true_eq, UInt8.le_iff_toNat_le, hbyte]
    exact hc
  rw [digit?, if_pos hrange, hbyte]

section

variable {rest : List UInt8} {ds : List Char} {n : Nat}

theorem gatherDigits_of_endsNumber (hrest : EndsNumber rest) (n count : Nat) :
    gatherDigits n count rest = (n, count, rest) := by
  cases rest with
  | nil => rw [gatherDigits]
  | cons b rest =>
      rw [gatherDigits]
      simp only [(hrest b rfl).1]

theorem countDigits_of_digits (hds : ∀ c ∈ ds, c.isDigit = true) (hrest : EndsNumber rest)
    (count : Nat) : countDigits count (ds.map asciiByte ++ rest) = (count + ds.length, rest) := by
  induction ds generalizing count with
  | nil =>
      cases rest with
      | nil => rfl
      | cons b rest =>
          have hb : (digit? b).isSome = false := by rw [(hrest b rfl).1]; rfl
          rw [List.map_nil, List.nil_append, countDigits, hb]
          rfl
  | cons c ds ih =>
      obtain ⟨hc, hds⟩ := List.forall_mem_cons.mp hds
      rw [List.map_cons, List.cons_append, countDigits, digit?_asciiByte hc, Option.isSome_some,
        if_pos rfl, ih hds, List.length_cons, Nat.add_assoc, Nat.add_comm 1]

theorem gatherDigits_of_lt (hds : ∀ c ∈ ds, c.isDigit = true)
    (hlt : Nat.ofDigitChars 10 ds n < wordLimit) (hrest : EndsNumber rest) (count : Nat) :
    gatherDigits n count (ds.map asciiByte ++ rest) =
      (Nat.ofDigitChars 10 ds n, count + ds.length, rest) := by
  induction ds generalizing n count with
  | nil => exact gatherDigits_of_endsNumber hrest n count
  | cons c ds ih =>
      obtain ⟨hc, hds⟩ := List.forall_mem_cons.mp hds
      rw [ofDigitChars_cons_eq] at hlt ⊢
      have hfits : n * 10 + (c.toNat - 48) < wordLimit := (le_ofDigitChars ds _).trans_lt hlt
      rw [List.map_cons, List.cons_append, gatherDigits, digit?_asciiByte hc]
      simp only [if_pos hfits]
      rw [ih hds hlt, List.length_cons, Nat.add_assoc, Nat.add_comm 1]

theorem gatherDigits_of_le (hds : ∀ c ∈ ds, c.isDigit = true) (hn : n < wordLimit)
    (hle : wordLimit ≤ Nat.ofDigitChars 10 ds n) (count : Nat) :
    ∃ gathered count' next left, (∀ c ∈ next :: left, c.isDigit = true) ∧
      ∀ rest, gatherDigits n count (ds.map asciiByte ++ rest) =
        (gathered, count', (next :: left).map asciiByte ++ rest) := by
  induction ds generalizing n count with
  | nil => exact absurd hle (Nat.not_le.mpr hn)
  | cons c ds ih =>
      have hc := hds c List.mem_cons_self
      rw [ofDigitChars_cons_eq] at hle
      by_cases hfits : n * 10 + (c.toNat - 48) < wordLimit
      · obtain ⟨gathered, count', next, left, hleft, hgather⟩ :=
          ih (fun d hd => hds d (List.mem_cons_of_mem c hd)) hfits hle (count + 1)
        refine ⟨gathered, count', next, left, hleft, fun rest => ?_⟩
        rw [List.map_cons, List.cons_append, gatherDigits, digit?_asciiByte hc]
        simp only [if_pos hfits]
        exact hgather rest
      · refine ⟨n, count, c, ds, hds, fun rest => ?_⟩
        rw [List.map_cons, List.cons_append, gatherDigits, digit?_asciiByte hc]
        simp only [if_neg hfits]

end

section

variable {negative : Bool} {n : Nat} {rest : List UInt8}

theorem finishFloat_of_endsNumber (hrest : EndsNumber rest) (significand : Nat) (shift : Int) :
    finishFloat negative significand shift rest =
      (scale negative significand shift).map fun x => (.float x, rest) := by
  cases rest with
  | nil => rfl
  | cons b rest =>
      rw [finishFloat, (hrest b rfl).2.2]
      rfl

def wholeNumeral (negative : Bool) (n : Nat) : Numeral :=
  if !negative then .natural n
  else if n = 0 || n > 1 <<< 63 then .float (-(UInt64.ofNat n).toFloat)
  else .negative n

theorem wholeNumeral_eq_natural {m : Nat} :
    wholeNumeral negative n = .natural m ↔ negative = false ∧ n = m := by
  cases negative with
  | false => simp [wholeNumeral]
  | true =>
      simp only [wholeNumeral, Bool.not_true, Bool.false_eq_true, if_false, reduceCtorEq, false_and,
        iff_false]
      split <;> exact nofun

theorem finishNumeral_of_endsNumber (hrest : EndsNumber rest) :
    finishNumeral negative n rest = some (wholeNumeral negative n, rest) := by
  cases rest with
  | nil => rfl
  | cons b rest =>
      obtain ⟨-, hpoint, hmark⟩ := hrest b rfl
      rw [finishNumeral]
      simp only [beq_eq_false_iff_ne.mpr hpoint, hmark, Bool.false_eq_true, if_false]
      rfl

theorem readUnsigned_zero (hrest : EndsNumber rest) :
    readUnsigned negative (0x30 :: rest) = finishNumeral negative 0 rest := by
  cases rest with
  | nil => rfl
  | cons b rest =>
      rw [readUnsigned]
      simp only [(hrest b rfl).1, Option.isSome_none, Bool.false_eq_true, if_false]

variable {first : UInt8} {more : List UInt8} {d gathered count : Nat}

theorem readUnsigned_of_fits (hfirst : first ≠ 0x30) (hdigit : digit? first = some d)
    (h : gatherDigits 0 0 (first :: more) = (gathered, count, rest)) (hrest : EndsNumber rest) :
    readUnsigned negative (first :: more) = finishNumeral negative gathered rest := by
  rw [readUnsigned.eq_def]
  split
  · next heq => cases heq
  · next heq => exact absurd (List.cons.inj heq).1 hfirst
  · next heq =>
    obtain ⟨rfl, rfl⟩ := List.cons.inj heq
    simp only [hdigit, Option.isNone_some, Bool.false_eq_true, if_false, h]
    cases rest with
    | nil => rfl
    | cons b rest => simp only [(hrest b rfl).1, Option.isSome_none, Bool.false_eq_true, if_false]

theorem readUnsigned_of_exceeds {next : UInt8} {left : List UInt8} {dropped d' : Nat}
    (hfirst : first ≠ 0x30) (hdigit : digit? first = some d)
    (h : gatherDigits 0 0 (first :: more) = (gathered, count, next :: left))
    (hnext : digit? next = some d') (hcount : countDigits 0 (next :: left) = (dropped, rest))
    (hrest : EndsNumber rest) :
    readUnsigned negative (first :: more) = finishFloat negative gathered dropped rest := by
  rw [readUnsigned.eq_def]
  split
  · next heq => cases heq
  · next heq => exact absurd (List.cons.inj heq).1 hfirst
  · next heq =>
    obtain ⟨rfl, rfl⟩ := List.cons.inj heq
    simp only [hdigit, Option.isNone_some, Bool.false_eq_true, if_false, h, hnext,
      Option.isSome_some, if_true, hcount]
    split
    · next rest' => exact absurd rfl (hrest 0x2e rfl).2.1
    · rfl

end

structure WholeNumber where
  isNegative : Bool
  digits : List Char
  isDigit : ∀ c ∈ digits, c.isDigit = true
  canonical : digits = ['0'] ∨ ∃ first more, digits = first :: more ∧ first ≠ '0'

namespace WholeNumber

def magnitude (z : WholeNumber) : Nat := Nat.ofDigitChars 10 z.digits 0

def value (z : WholeNumber) : Int := if z.isNegative then -z.magnitude else z.magnitude

def bytes (z : WholeNumber) : List UInt8 :=
  if z.isNegative then 0x2d :: z.digits.map asciiByte else z.digits.map asciiByte

def IsWord (z : WholeNumber) : Prop := z.isNegative = false ∧ z.magnitude < wordLimit

theorem isWord_iff {z : WholeNumber} :
    z.IsWord ↔ 0 ≤ z.value ∧ z.value < 2 ^ 64 ∧ (z.value = 0 → z.isNegative = false) := by
  have hlimit : wordLimit = 2 ^ 64 := by decide
  rw [IsWord, value, hlimit]
  cases z.isNegative with
  | false =>
      simp only [Bool.false_eq_true, if_false, implies_true, and_true, true_and]
      omega
  | true =>
      simp only [if_true, Bool.true_eq_false, false_and, false_iff]
      rintro ⟨hlow, -, hzero⟩
      exact hzero (by omega)

theorem IsWord.value_eq {z : WholeNumber} (h : z.IsWord) : z.value = z.magnitude := by
  rw [value, h.1]
  rfl

theorem readUnsigned_digits (z : WholeNumber) (negative : Bool) : ∃ found : Option Numeral,
    (∀ rest, EndsNumber rest → readUnsigned negative (z.digits.map asciiByte ++ rest) =
      found.map fun v => (v, rest)) ∧
    ∀ n, found = some (.natural n) ↔
      negative = false ∧ z.magnitude < wordLimit ∧ z.magnitude = n := by
  obtain ⟨isNegative, digits, hdigits, hzero | ⟨first, more, hmore, hne⟩⟩ := z
  · subst hzero
    refine ⟨some (wholeNumeral negative 0), fun rest hrest => ?_, fun n => ?_⟩
    · exact (readUnsigned_zero hrest).trans (finishNumeral_of_endsNumber hrest)
    · rw [Option.some.injEq, wholeNumeral_eq_natural]
      have hmagnitude : (Nat.ofDigitChars 10 ['0'] 0) = 0 := rfl
      simp [magnitude, hmagnitude, wordLimit]
  · subst hmore
    have hfirst : first.isDigit = true := hdigits first List.mem_cons_self
    have hbyte : asciiByte first ≠ 0x30 := by
      intro heq
      have hcode : first.toNat - 48 = 0 :=
        Option.some.inj ((digit?_asciiByte hfirst).symm.trans (congrArg digit? heq))
      have hrange := toNat_of_isDigit hfirst
      have hnat : first.toNat = 48 := by omega
      exact hne (Char.ext (UInt32.toNat_inj.mp hnat))
    by_cases hlt : Nat.ofDigitChars 10 (first :: more) 0 < wordLimit
    · refine ⟨some (wholeNumeral negative (Nat.ofDigitChars 10 (first :: more) 0)),
        fun rest hrest => ?_, fun n => ?_⟩
      · have hgather := gatherDigits_of_lt hdigits hlt hrest 0
        exact (readUnsigned_of_fits hbyte (digit?_asciiByte hfirst) hgather hrest).trans
          (finishNumeral_of_endsNumber hrest)
      · rw [Option.some.injEq, wholeNumeral_eq_natural]
        simp [magnitude, hlt]
    · obtain ⟨gathered, count, next, left, hleft, hgather⟩ :=
        gatherDigits_of_le hdigits (by decide) (Nat.not_lt.mp hlt) 0
      refine ⟨(scale negative gathered ((0 + (next :: left).length : Nat) : Int)).map .float,
        fun rest hrest => ?_, fun n => ?_⟩
      · have hnext := digit?_asciiByte (hleft next List.mem_cons_self)
        have hcount := countDigits_of_digits hleft hrest 0
        refine (readUnsigned_of_exceeds hbyte (digit?_asciiByte hfirst) (hgather rest) hnext hcount
          hrest).trans ?_
        rw [finishFloat_of_endsNumber hrest, Option.map_map]
        rfl
      · simp [magnitude, hlt]

theorem exists_first_digit (z : WholeNumber) : ∃ first more, z.digits = first :: more := by
  rcases z.canonical with hzero | ⟨first, more, hmore, -⟩
  · exact ⟨_, _, hzero⟩
  · exact ⟨_, _, hmore⟩

def found? (z : WholeNumber) : Option Numeral := (readNumeral z.bytes).map (·.1)

theorem exists_found (z : WholeNumber) : ∃ found : Option Numeral,
    (∀ rest, EndsNumber rest → readNumeral (z.bytes ++ rest) = found.map fun v => (v, rest)) ∧
    ∀ n, found = some (.natural n) ↔ z.IsWord ∧ z.magnitude = n := by
  obtain ⟨found, hread, hnatural⟩ := z.readUnsigned_digits z.isNegative
  refine ⟨found, fun rest hrest => ?_, fun n => ?_⟩
  · rw [← hread rest hrest, bytes]
    cases hneg : z.isNegative with
    | true => rfl
    | false =>
        obtain ⟨first, more, hdigits⟩ := z.exists_first_digit
        have hdigit := digit?_asciiByte (z.isDigit first (hdigits ▸ List.mem_cons_self))
        rw [if_neg (by decide), hdigits, readNumeral.eq_def]
        split
        · next heq =>
          rw [(List.cons.inj heq).1] at hdigit
          cases hdigit
        · rfl
  · rw [hnatural, IsWord, and_assoc]

theorem read_found? (z : WholeNumber) :
    (∀ rest, EndsNumber rest → readNumeral (z.bytes ++ rest) = z.found?.map fun v => (v, rest)) ∧
    ∀ n, z.found? = some (.natural n) ↔ z.IsWord ∧ z.magnitude = n := by
  obtain ⟨found, hread, hnatural⟩ := z.exists_found
  have hfound : z.found? = found := by
    have hnil := hread [] endsNumber_nil
    rw [List.append_nil] at hnil
    rw [found?, hnil, Option.map_map]
    exact Option.map_id'
  rw [hfound]
  exact ⟨hread, hnatural⟩

end WholeNumber

end ImageIntake.Json
