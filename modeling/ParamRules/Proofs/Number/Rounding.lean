import Mathlib.Algebra.Group.Nat.Defs
import Mathlib.Data.Nat.Log
import ParamRules.Number.Binary64

/-!
# Rounding of whole magnitudes

The magnitudes of a binary format around a number are the multiples of a spacing, which is
a power of two that grows with the number.  Rounding never passes a multiple of the
spacing.  Hence it is monotone, it keeps the multiples of the spacing, and its results are
magnitudes of the format again unless they are too large.
-/

namespace ParamRules.BinaryFormat

variable (format : BinaryFormat)

/-! ## Spacing -/

theorem spacing_eq (n : Nat) : format.spacing n = 2 ^ format.spacingExponent n := rfl

theorem spacing_pos (n : Nat) : 0 < format.spacing n :=
  Nat.two_pow_pos _

theorem log2_mono {a b : Nat} (h : a ≤ b) : a.log2 ≤ b.log2 := by
  rw [Nat.log2_eq_log_two, Nat.log2_eq_log_two]
  exact Nat.log_mono_right h

theorem spacingExponent_mono {a b : Nat} (h : a ≤ b) :
    format.spacingExponent a ≤ format.spacingExponent b := by
  have hlog := log2_mono h
  unfold spacingExponent
  omega

theorem spacing_dvd_two_pow {n k : Nat} (h : format.spacingExponent n ≤ k) :
    format.spacing n ∣ 2 ^ k := by
  rw [spacing_eq]
  exact Nat.pow_dvd_pow 2 h

/-! ## Multiples of the spacing -/

theorem round_one (n : Nat) :
    format.round n 1 =
      if format.spacing n < 2 * (n % format.spacing n) ∨
          format.spacing n = 2 * (n % format.spacing n) ∧ n / format.spacing n % 2 = 1 then
        (n / format.spacing n + 1) * format.spacing n
      else
        n / format.spacing n * format.spacing n := by
  rw [round]
  simp only [Nat.div_one, Nat.one_mul]

theorem spacing_dvd_round (n : Nat) : format.spacing n ∣ format.round n 1 := by
  rw [round_one]
  split
  · exact Nat.dvd_mul_left _ _
  · exact Nat.dvd_mul_left _ _

/-- Rounding down stops at every multiple of the spacing. -/
theorem le_round_of_dvd {m n : Nat} (hdvd : format.spacing n ∣ m) (hle : m ≤ n) :
    m ≤ format.round n 1 := by
  obtain ⟨k, rfl⟩ := hdvd
  have hquotient : k ≤ n / format.spacing n :=
    (Nat.le_div_iff_mul_le (format.spacing_pos n)).mpr (by rwa [Nat.mul_comm])
  have hdown : format.spacing n * k ≤ n / format.spacing n * format.spacing n := by
    rw [Nat.mul_comm]
    exact Nat.mul_le_mul_right _ hquotient
  rw [round_one]
  split
  · exact hdown.trans (Nat.mul_le_mul_right _ (Nat.le_succ _))
  · exact hdown

/-- Rounding up stops at every multiple of the spacing. -/
theorem round_le_of_dvd {m n : Nat} (hdvd : format.spacing n ∣ m) (hle : n ≤ m) :
    format.round n 1 ≤ m := by
  obtain ⟨k, rfl⟩ := hdvd
  have hpos := format.spacing_pos n
  have hsplit := Nat.div_add_mod n (format.spacing n)
  rw [round_one]
  split
  · next hup =>
      -- what is rounded up lies strictly above the multiple below it
      have hrest : 0 < n % format.spacing n := by omega
      have hbelow : n / format.spacing n < k := by
        refine Nat.lt_of_mul_lt_mul_left (a := format.spacing n) ?_
        omega
      rw [Nat.mul_comm]
      exact Nat.mul_le_mul_left _ hbelow
  · exact (Nat.div_mul_le_self n _).trans hle

theorem round_eq_self_of_dvd {n : Nat} (hdvd : format.spacing n ∣ n) :
    format.round n 1 = n :=
  Nat.le_antisymm (format.round_le_of_dvd hdvd le_rfl) (format.le_round_of_dvd hdvd le_rfl)

/-! ## Monotonicity -/

/-- Between two numbers with different spacings there is a power of two, which neither is
rounded past. -/
theorem exists_two_pow_between {a b : Nat} (hle : a ≤ b)
    (hspacing : format.spacingExponent a ≠ format.spacingExponent b) :
    ∃ k, a ≤ 2 ^ k ∧ 2 ^ k ≤ b ∧
      format.spacingExponent a ≤ k ∧ format.spacingExponent b ≤ k := by
  have hexponent := format.spacingExponent_mono hle
  have hlog : a.log2 < b.log2 := by
    refine lt_of_le_of_ne (log2_mono hle) fun heq => hspacing ?_
    rw [spacingExponent, spacingExponent, heq]
  have hwide : format.spacingExponent b ≤ b.log2 := by
    unfold spacingExponent at hspacing hexponent ⊢
    omega
  have hb : b ≠ 0 := by
    rintro rfl
    simp at hlog
  refine ⟨b.log2, ?_, Nat.log2_self_le hb, hexponent.trans hwide, hwide⟩
  have ha : a < 2 ^ (a.log2 + 1) := Nat.lt_log2_self
  exact ha.le.trans (Nat.pow_le_pow_right (by decide) hlog)

theorem round_mono_of_spacing_eq {a b : Nat} (hle : a ≤ b)
    (hspacing : format.spacing a = format.spacing b) :
    format.round a 1 ≤ format.round b 1 := by
  have hdvd : format.spacing b ∣ b / format.spacing b * format.spacing b :=
    Nat.dvd_mul_left _ _
  have hbelow : b / format.spacing b * format.spacing b ≤ format.round b 1 :=
    format.le_round_of_dvd hdvd (Nat.div_mul_le_self b _)
  by_cases hmultiple : a ≤ b / format.spacing b * format.spacing b
  · exact (format.round_le_of_dvd (hspacing ▸ hdvd) hmultiple).trans hbelow
  · -- both lie above the same multiple, and the greater one lies higher above it
    have hquotient : a / format.spacing b = b / format.spacing b := by
      refine Nat.le_antisymm (Nat.div_le_div_right hle) ?_
      exact (Nat.le_div_iff_mul_le (format.spacing_pos b)).mpr (by omega)
    have hrest : a % format.spacing b ≤ b % format.spacing b := by
      have hasplit := Nat.div_add_mod a (format.spacing b)
      have hbsplit := Nat.div_add_mod b (format.spacing b)
      rw [hquotient] at hasplit
      omega
    rw [round_one, round_one, hspacing, hquotient]
    split
    · next hup =>
        have hup' : format.spacing b < 2 * (b % format.spacing b) ∨
            format.spacing b = 2 * (b % format.spacing b) ∧
              b / format.spacing b % 2 = 1 := by
          omega
        rw [if_pos hup']
    · split
      · exact Nat.mul_le_mul_right _ (Nat.le_succ _)
      · exact le_rfl

/-- Rounding is monotone. -/
theorem round_mono {a b : Nat} (hle : a ≤ b) : format.round a 1 ≤ format.round b 1 := by
  by_cases hspacing : format.spacingExponent a = format.spacingExponent b
  · apply format.round_mono_of_spacing_eq hle
    rw [spacing_eq, spacing_eq, hspacing]
  · obtain ⟨k, hak, hkb, ha, hb⟩ := format.exists_two_pow_between hle hspacing
    calc
      format.round a 1 ≤ 2 ^ k := format.round_le_of_dvd (format.spacing_dvd_two_pow ha) hak
      _ ≤ format.round b 1 := format.le_round_of_dvd (format.spacing_dvd_two_pow hb) hkb

/-! ## Results of rounding -/

/-- The result of rounding is a multiple of its own spacing, which may be wider than that
of the number. -/
theorem spacing_round_dvd (n : Nat) :
    format.spacing (format.round n 1) ∣ format.round n 1 := by
  by_cases hexponent :
      format.spacingExponent (format.round n 1) ≤ format.spacingExponent n
  · have hstep : format.spacing (format.round n 1) ∣ format.spacing n :=
      format.spacing_dvd_two_pow hexponent
    exact Nat.dvd_trans hstep (format.spacing_dvd_round n)
  · -- the number was rounded up to the least power of two with a wider spacing
    let k := max (format.spacingExponent n) (n.log2 + 1)
    have hn : n ≤ 2 ^ k := by
      have hlt : n < 2 ^ (n.log2 + 1) := Nat.lt_log2_self
      exact hlt.le.trans (Nat.pow_le_pow_right (by decide) (Nat.le_max_right _ _))
    have hle : format.round n 1 ≤ 2 ^ k :=
      format.round_le_of_dvd (format.spacing_dvd_two_pow (Nat.le_max_left _ _)) hn
    have hlog : k ≤ (format.round n 1).log2 := by
      unfold spacingExponent at hexponent
      simp only [k, spacingExponent]
      omega
    have hne : format.round n 1 ≠ 0 := by
      intro hzero
      rw [hzero] at hlog
      simp [k] at hlog
    have heq : format.round n 1 = 2 ^ k :=
      Nat.le_antisymm hle
        ((Nat.pow_le_pow_right (by decide) hlog).trans (Nat.log2_self_le hne))
    have hwide : format.spacingExponent (format.round n 1) ≤ k := by
      have hk : (format.round n 1).log2 = k := by rw [heq, Nat.log2_two_pow]
      unfold spacingExponent at hexponent ⊢
      omega
    have hdvd := format.spacing_dvd_two_pow hwide
    rwa [← heq] at hdvd

end ParamRules.BinaryFormat
