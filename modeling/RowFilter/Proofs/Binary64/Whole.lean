import Mathlib.Algebra.Ring.Nat
import RowFilter.Binary64.Rounding

/-!
# Whole numbers in double precision

A whole number of fifty-three bits and `k` more is rounded to a multiple of `2 ^ k`. So it becomes
itself exactly if it is such a multiple.

Headlines:
* `roundDiv_mul_eq_iff`: rounding a quotient loses nothing exactly if there is no remainder;
* `exponentField_ofFields` and its like: a number has the fields that it is made of;
* **`isWhole_ofDecimal_iff`**: a whole number is kept exactly if its last `k` bits are zero.
-/

namespace RowFilter

/-! ## Rounded quotients -/

section Quotients

variable {num den : Nat}

theorem roundDiv_mul_eq_iff (hden : 0 < den) : roundDiv num den * den = num ↔ den ∣ num := by
  constructor
  · intro h
    exact h ▸ Nat.dvd_mul_left den _
  · rintro ⟨q, rfl⟩
    have hexact : roundDiv (den * q) den = q := by
      simp only [roundDiv, Nat.mul_mod_right, Nat.mul_div_cancel_left q hden, Nat.mul_zero,
        if_pos hden]
    rw [hexact, Nat.mul_comm]

theorem le_roundDiv (hden : 0 < den) {low : Nat} (h : low * den ≤ num) :
    low ≤ roundDiv num den := by
  have hq : low ≤ num / den := (Nat.le_div_iff_mul_le hden).mpr h
  simp only [roundDiv]
  split
  · exact hq
  · split
    · omega
    · split <;> omega

theorem roundDiv_le (hden : 0 < den) {high : Nat} (h : num < high * den) :
    roundDiv num den ≤ high := by
  have hq : num / den < high := (Nat.div_lt_iff_lt_mul hden).mpr h
  simp only [roundDiv]
  split
  · omega
  · split
    · omega
    · split <;> omega

end Quotients

namespace Binary64

/-! ## Fields -/

section Fields

variable {e f : Nat}

theorem toNat_bits_ofFields (he : e < 0x800) (hf : f < 0x10000000000000) :
    (ofFields false e f).bits.toNat = e * 0x10000000000000 + f := by
  have hlt : 0 + e * 0x10000000000000 + f < UInt64.size := by
    simp only [UInt64.size]
    omega
  simp only [ofFields, Bool.false_eq_true, if_false, UInt64.toNat_ofNat_of_lt' hlt]
  omega

theorem exponentField_ofFields (he : e < 0x800) (hf : f < 0x10000000000000) :
    (ofFields false e f).exponentField = e := by
  rw [exponentField, toNat_bits_ofFields he hf]
  omega

theorem fraction_ofFields (he : e < 0x800) (hf : f < 0x10000000000000) :
    (ofFields false e f).fraction = f := by
  rw [fraction, toNat_bits_ofFields he hf]
  omega

theorem isNegative_ofFields (he : e < 0x800) (hf : f < 0x10000000000000) :
    (ofFields false e f).isNegative = false := by
  rw [isNegative, toNat_bits_ofFields he hf, decide_eq_false_iff_not]
  omega

end Fields

/-! ## Whole numbers -/

/-- The number is a whole number. -/
structure IsWhole (x : Binary64) (n : Int) : Prop where
  finite : x.isFinite = true
  magnitude : (if x.isNegative then -(x.ratio.1 : Int) else x.ratio.1) = n * x.ratio.2

theorem IsWhole.unique {x : Binary64} {m n : Int} (hm : x.IsWhole m) (hn : x.IsWhole n) :
    m = n := by
  have hpos : (x.ratio.2 : Int) ≠ 0 := by
    have hden : x.ratio.2 ≠ 0 := by
      rw [ratio, Nat.one_shiftLeft]
      exact Nat.ne_of_gt (Nat.two_pow_pos _)
    exact_mod_cast hden
  exact Int.eq_of_mul_eq_mul_right hpos (hm.magnitude.symm.trans hn.magnitude)

section Scaled

variable {m k : Nat}

/-- A number with the leading bit of its significand. -/
theorem isWhole_ofFields (hlow : 0x10000000000000 ≤ m) (hhigh : m < 0x20000000000000)
    (hk : k ≤ 971) :
    (ofFields false (k + 1075) (m - 0x10000000000000)).IsWhole (m * 2 ^ k : Nat) := by
  have he : k + 1075 < 0x800 := by omega
  have hf : m - 0x10000000000000 < 0x10000000000000 := by omega
  have hfield := exponentField_ofFields he hf
  have hnormal : ¬k + 1075 = 0 := by omega
  have hsignificand : (ofFields false (k + 1075) (m - 0x10000000000000)).significand = m := by
    rw [significand, hfield, fraction_ofFields he hf, if_neg (by simp)]
    omega
  have hscale : (ofFields false (k + 1075) (m - 0x10000000000000)).scale = k := by
    rw [scale, hfield, if_neg (by simp)]
    omega
  refine ⟨?_, ?_⟩
  · rw [isFinite, hfield, bne_iff_ne]
    omega
  · rw [isNegative_ofFields he hf, ratio, hsignificand, hscale]
    simp [Nat.shiftLeft_eq]

/-- A significand of fifty-three bits, or the next after them, keeps what it stands for. -/
theorem isWhole_ofScaled (hlow : 2 ^ 52 ≤ m) (hhigh : m ≤ 2 ^ 53) (hk : k ≤ 970) :
    (ofScaled false m k).IsWhole (m * 2 ^ k : Nat) := by
  have hm : m ≠ 0 := by omega
  rw [ofScaled, if_neg hm]
  rcases Nat.lt_or_eq_of_le hhigh with hlt | rfl
  · have hlog : m.log2 = 52 := (Nat.log2_eq_iff hm).mpr ⟨hlow, hlt⟩
    have hup : min (52 - (52 : Nat) : Int) ((k : Int) + 1074) = 0 := by omega
    have hfits : ¬971 < (k : Int) := by omega
    have hlead : ¬m < 0x10000000000000 := by omega
    have hexp : ((k : Int) + 1075).toNat = k + 1075 := by omega
    simp only [hlog, hup, Int.toNat_zero, Int.neg_zero, Nat.shiftLeft_zero, Nat.shiftRight_zero,
      Int.sub_zero, if_neg hlead, if_neg hfits, hexp]
    exact isWhole_ofFields (by omega) (by omega) (by omega)
  · have hlog : (2 ^ 53 : Nat).log2 = 53 := Nat.log2_two_pow
    have hup : min (52 - (53 : Nat) : Int) ((k : Int) + 1074) = -1 := by omega
    have hfits : ¬971 < (k : Int) + 1 := by omega
    have hexp : ((k : Int) + 1 + 1075).toNat = k + 1 + 1075 := by omega
    have hcarry : (2 ^ 53 * 2 ^ k : Nat) = 0x10000000000000 * 2 ^ (k + 1) := by
      rw [Nat.pow_succ]
      omega
    have hhalf :
        (2 ^ 53 : Nat) <<< (-1 : Int).toNat >>> (-(-1) : Int).toNat = 0x10000000000000 := by decide
    have hlead : ¬(0x10000000000000 : Nat) < 0x10000000000000 := by omega
    simp only [hlog, hup, hhalf, if_neg hlead, Int.sub_neg, if_neg hfits, hexp, hcarry]
    exact isWhole_ofFields (m := 0x10000000000000) (by omega) (by omega) (by omega)

end Scaled

section Rounded

variable {n k : Nat}

theorem scaleOf_double (hlow : 2 ^ (52 + k) ≤ n) (hhigh : n < 2 ^ (53 + k)) :
    Grid.double.scaleOf n 1 = k := by
  have hlog : n.log2 = 52 + k :=
    (Nat.log2_eq_iff (by have := Nat.two_pow_pos (52 + k); omega)).mpr
      ⟨hlow, by rwa [show 52 + k + 1 = 53 + k by omega]⟩
  have hguess : ((52 + k : Nat) : Int) - (Nat.log2 1 : Nat) - (53 : Nat) = k - 1 := by
    rw [show Nat.log2 1 = 0 from by decide]
    omega
  have hfits : ¬n <<< (-((k : Int) - 1)).toNat < 1 <<< 53 <<< ((k : Int) - 1).toNat := by
    rw [Nat.shiftLeft_eq, Nat.shiftLeft_eq, Nat.shiftLeft_eq, Nat.one_mul]
    cases k with
    | zero =>
      rw [show (-(((0 : Nat) : Int) - 1)).toNat = 1 by omega,
        show (((0 : Nat) : Int) - 1).toNat = 0 by omega]
      omega
    | succ k =>
      rw [show (-(((k + 1 : Nat) : Int) - 1)).toNat = 0 by omega,
        show (((k + 1 : Nat) : Int) - 1).toNat = k by omega, ← Nat.pow_add]
      simp only [Nat.pow_zero, Nat.mul_one, Nat.not_lt]
      rwa [show 53 + k = 52 + (k + 1) by omega]
  simp only [Grid.scaleOf, Grid.double, hlog, hguess, if_neg hfits]
  omega

/-- What a whole number becomes. -/
theorem isWhole_ofDecimal (hlow : 2 ^ (52 + k) ≤ n) (hhigh : n < 2 ^ (53 + k)) (hk : k ≤ 970) :
    (ofDecimal .double false n 0).IsWhole (roundDiv n (2 ^ k) * 2 ^ k : Nat) := by
  have hn : n ≠ 0 := by
    have := Nat.two_pow_pos (52 + k)
    omega
  have hden := Nat.two_pow_pos k
  have hmlow : 2 ^ 52 ≤ roundDiv n (2 ^ k) := le_roundDiv hden (by rwa [← Nat.pow_add])
  have hmhigh : roundDiv n (2 ^ k) ≤ 2 ^ 53 := roundDiv_le hden (by rwa [← Nat.pow_add])
  have hend : (if roundDiv n (2 ^ k) = 2 ^ 53 then (k : Int) + 1 else k) ≤ 971 := by
    split <;> omega
  have hratio : ofRatio .double false n 1 = ofScaled false (roundDiv n (2 ^ k)) k := by
    rw [ofRatio, scaleOf_double hlow hhigh]
    simp only [Int.toNat_neg_natCast, Nat.shiftLeft_zero, Int.toNat_natCast, Nat.one_shiftLeft]
    exact if_neg (Int.not_lt.mpr hend)
  have hdecimal : ofDecimal .double false n 0 = ofRatio .double false n 1 := by
    have hsmall : ¬(0 : Int) + (n.log2 / 3 + 1 : Nat) < -400 := by omega
    rw [ofDecimal, if_neg hn, if_neg (by decide), if_neg hsmall]
    simp
  rw [hdecimal, hratio]
  exact isWhole_ofScaled hmlow hmhigh hk

/-- **A whole number is kept** exactly if its last `k` bits are zero. -/
theorem isWhole_ofDecimal_iff (hlow : 2 ^ (52 + k) ≤ n) (hhigh : n < 2 ^ (53 + k)) (hk : k ≤ 970) :
    (ofDecimal .double false n 0).IsWhole n ↔ 2 ^ k ∣ n := by
  have hrounded := isWhole_ofDecimal hlow hhigh hk
  rw [← roundDiv_mul_eq_iff (Nat.two_pow_pos k)]
  constructor
  · intro h
    exact_mod_cast hrounded.unique h
  · intro h
    rwa [h] at hrounded

end Rounded

end Binary64
end RowFilter
