import Mathlib.Algebra.Order.Group.Nat
import Mathlib.Tactic.Ring

/-!
# Rounded division

Natural numbers divided to the nearest one, halves up. The code of such a division adds half of the
denominator first, and halves an odd denominator down; nothing is lost by it, since no quotient by
an odd denominator lies halfway between two numbers (`le_roundDiv_iff`). So the rounded quotient
depends on the exact one alone, and grows with it (`roundDiv_le_roundDiv`).
-/

namespace RoundDiv

variable {n n' d d' k : Nat}

/-- Division to the nearest natural number; nothing divided by zero is zero. -/
def roundDiv (n d : Nat) : Nat :=
  if d = 0 then 0 else (n + d / 2) / d

theorem roundDiv_of_pos (hd : 0 < d) : roundDiv n d = (n + d / 2) / d :=
  if_neg hd.ne'

/-- **Half a unit below counts**: the exact quotient and a half decide. -/
theorem le_roundDiv_iff (hd : 0 < d) : k ≤ roundDiv n d ↔ 2 * (k * d) ≤ 2 * n + d := by
  rw [roundDiv_of_pos hd, Nat.le_div_iff_mul_le hd]
  omega

/-- **Rounding keeps the order** of the exact quotients. -/
theorem roundDiv_le_roundDiv (hd : 0 < d) (hd' : 0 < d') (h : n * d' ≤ n' * d) :
    roundDiv n d ≤ roundDiv n' d' := by
  have hk := (le_roundDiv_iff hd).mp (Nat.le_refl (roundDiv n d))
  rw [le_roundDiv_iff hd']
  generalize roundDiv n d = k at *
  apply Nat.le_of_mul_le_mul_left ?_ hd
  calc d * (2 * (k * d')) = 2 * (k * d) * d' := by ring
    _ ≤ (2 * n + d) * d' := Nat.mul_le_mul_right d' hk
    _ = 2 * (n * d') + d * d' := by ring
    _ ≤ 2 * (n' * d) + d * d' := by omega
    _ = d * (2 * n' + d') := by ring

theorem roundDiv_mono (h : n ≤ n') : roundDiv n d ≤ roundDiv n' d := by
  rcases Nat.eq_zero_or_pos d with rfl | hd
  · exact Nat.le_refl _
  · exact roundDiv_le_roundDiv hd hd (Nat.mul_le_mul_right d h)

theorem roundDiv_anti (hd : 0 < d) (h : d ≤ d') : roundDiv n d' ≤ roundDiv n d :=
  roundDiv_le_roundDiv (hd.trans_le h) hd (Nat.mul_le_mul_left n h)

theorem roundDiv_mul (hd : 0 < d) : roundDiv (k * d) d = k := by
  have hhalf : d / 2 < d := Nat.div_lt_self hd (by decide)
  rw [roundDiv_of_pos hd, Nat.add_comm, Nat.add_mul_div_right _ _ hd, Nat.div_eq_of_lt hhalf,
    Nat.zero_add]

/-- An exact quotient of at most `k` is not rounded above it. -/
theorem roundDiv_le_of_le_mul (h : n ≤ k * d) : roundDiv n d ≤ k := by
  rcases Nat.eq_zero_or_pos d with rfl | hd
  · exact Nat.zero_le _
  · exact (roundDiv_mono h).trans (roundDiv_mul hd).le

end RoundDiv
