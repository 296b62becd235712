import Mathlib.Algebra.Order.Group.Nat
import Mathlib.Tactic.Common

/-!
# Sizes that name themselves

A message may carry its own size as a decimal number, and so its size depends on the digits of that
number. One measures the message with some number in it, writes the measured size into it, and
repeats until the size stays.

* `GrowsSlowly` — one more digit adds at most two bytes: itself, and a digit of some length in front;
* `settles` — four attempts are enough;
* `fixed_le_iff` — whether the size that stays is within a limit is decided by the size with as many
  digits as the limit, unless the limit is close to a power of ten.
-/

namespace SelfMeasure

/-- The decimal digits of a number. -/
def digits (n : Nat) : Nat := n.repr.length

/-! ## Digits

A number is written with as many digits as it needs to stay below a power of ten; one more changes
that by at most one. -/

theorem digits_pos (n : Nat) : 0 < digits n := Nat.length_repr_pos

/-- A number has at most `k` digits when it is below the `k`th power of ten. -/
theorem digits_le_iff {n k : Nat} (hk : 0 < k) : digits n ≤ k ↔ n < 10 ^ k :=
  Nat.length_repr_le_iff hk

theorem lt_pow_digits (n : Nat) : n < 10 ^ digits n :=
  (digits_le_iff (digits_pos n)).mp (Nat.le_refl _)

theorem digits_mono {n m : Nat} (h : n ≤ m) : digits n ≤ digits m :=
  (digits_le_iff (digits_pos m)).mpr (h.trans_lt (lt_pow_digits m))

/-- The next number has a digit more at most. -/
theorem digits_succ_le (n : Nat) : digits (n + 1) ≤ digits n + 1 := by
  have hlt := lt_pow_digits n
  rw [digits_le_iff (Nat.succ_pos _), Nat.pow_succ]
  omega

theorem two_mul_le_pow (d : Nat) (hd : 0 < d) : 2 * d ≤ 10 ^ d := by
  induction d with
  | zero => cases hd
  | succ d ih =>
    rcases Nat.eq_zero_or_pos d with rfl | hpos
    · decide
    · have hle := ih hpos
      rw [Nat.pow_succ]
      omega

/-! ## Measuring again

The size depends on the number in it only through its digits. So the sizes that are measured grow
from attempt to attempt, and a size that has its own digits is measured again as itself. -/

section

variable {size : Nat → Nat} {limit k : Nat}

/-- Measure again with the digits of the last size, until the size stays. -/
def settle (size : Nat → Nat) : Nat → Nat → Option Nat
  | 0, _ => none
  | attempts + 1, last =>
    if size (digits last) = last then some last else settle size attempts (size (digits last))

/-- One more digit makes the message longer, by at most two bytes. -/
structure GrowsSlowly (size : Nat → Nat) : Prop where
  mono : ∀ d, size d ≤ size (d + 1)
  slow : ∀ d, size (d + 1) ≤ size d + 2

theorem GrowsSlowly.le_of_le (h : GrowsSlowly size) {d d' : Nat} (hle : d ≤ d') :
    size d ≤ size d' := monotone_nat_of_le_succ h.mono hle

/-- So many digits more make so many times two bytes more at most. -/
theorem GrowsSlowly.le_add (h : GrowsSlowly size) (d k : Nat) : size (d + k) ≤ size d + 2 * k := by
  induction k with
  | zero => exact Nat.le_refl _
  | succ k ih =>
    have hslow := h.slow (d + k)
    rw [← Nat.add_assoc]
    omega

/-- **Four attempts are enough.** The second size has the digits of the first or one more, and then
they stay. -/
theorem settles (h : GrowsSlowly size) :
    ∃ settled, settle size 4 1 = some settled ∧ size (digits settled) = settled := by
  have hone : digits 1 = 1 := by decide
  -- the sizes the first three attempts measure
  set e₁ := size 1 with he₁
  set e₂ := size (digits e₁) with he₂
  set e₃ := size (digits e₂) with he₃
  have hd₁ := digits_pos e₁
  have h₁₂ : e₁ ≤ e₂ := h.le_of_le hd₁
  have hd₁₂ := digits_mono h₁₂
  have h₂ : e₂ ≤ e₁ + 2 * (digits e₁ - 1) := by
    have hle := h.le_add 1 (digits e₁ - 1)
    rwa [Nat.add_sub_cancel' hd₁] at hle
  have hlt := lt_pow_digits e₁
  have htwo := two_mul_le_pow _ hd₁
  have hpow : 10 ^ (digits e₁ + 1) = 10 * 10 ^ digits e₁ := by
    rw [Nat.pow_succ, Nat.mul_comm]
  have hstays : digits e₃ = digits e₂ := by
    have h₂₃ : e₂ ≤ e₃ := h.le_of_le hd₁₂
    have hd₂₃ := digits_mono h₂₃
    rcases Nat.lt_or_ge (digits e₁) (digits e₂) with hmore | hsame
    · have hd₂ : digits e₂ ≤ digits e₁ + 1 := by
        rw [digits_le_iff (Nat.succ_pos _)]
        omega
      have heq : digits e₂ = digits e₁ + 1 := by omega
      have h₃ : e₃ ≤ e₂ + 2 := by
        rw [he₃, heq, he₂]
        exact h.slow _
      have hd₃ : digits e₃ ≤ digits e₁ + 1 := by
        rw [digits_le_iff (Nat.succ_pos _)]
        omega
      omega
    · have heq : e₃ = e₂ := by rw [he₃, he₂, Nat.le_antisymm hsame hd₁₂]
      rw [heq]
  have hfixed : size (digits e₃) = e₃ := by rw [hstays]
  rw [settle, hone, ← he₁]
  split
  case isTrue heq => exact ⟨1, rfl, by rw [hone, ← he₁, heq]⟩
  rw [settle, ← he₂]
  split
  case isTrue heq => exact ⟨e₁, rfl, heq⟩
  rw [settle, ← he₃]
  split
  case isTrue heq => exact ⟨e₂, rfl, heq⟩
  rw [settle, if_pos hfixed]
  exact ⟨e₃, rfl, hfixed⟩

/-- **The digits of the limit decide**, when fewer digits and more digits are far from it. -/
theorem fixed_le_iff (h : GrowsSlowly size) (hsmall : 10 ^ k + 2 * k ≤ limit)
    (hlarge : 2 * limit ≤ 10 ^ (k + 1)) (hk : 0 < k) {settled : Nat}
    (hfixed : size (digits settled) = settled) : settled ≤ limit ↔ size (k + 1) ≤ limit := by
  have hlt := lt_pow_digits settled
  rcases Nat.lt_trichotomy (digits settled) (k + 1) with hless | hsame | hmore
  · have hfew : settled < 10 ^ k := (digits_le_iff hk).mp (Nat.lt_succ_iff.mp hless)
    have hle := h.le_add (digits settled) (k + 1 - digits settled)
    rw [Nat.add_sub_cancel' hless.le, hfixed] at hle
    have hpos := digits_pos settled
    omega
  · rw [← hfixed, hsame]
  · obtain ⟨m, hm⟩ := Nat.exists_eq_add_of_lt hmore
    have hmany : ¬settled < 10 ^ (k + 1 + m) := by
      rw [← digits_le_iff (by omega)]
      omega
    have hle := h.le_add (k + 1) (m + 1)
    have hdigits : digits settled = k + 1 + (m + 1) := by omega
    rw [← hdigits, hfixed] at hle
    have hgrow : 10 ^ (k + 1 + m) = 10 ^ (k + 1) * 10 ^ m := Nat.pow_add _ _ _
    have hone : 1 ≤ 10 ^ m := Nat.one_le_pow _ _ (by decide)
    have htwo : 2 * m ≤ 10 ^ m := by
      rcases Nat.eq_zero_or_pos m with rfl | hpos
      · decide
      · exact two_mul_le_pow m hpos
    have hhundred : 10 ^ 2 ≤ 10 ^ (k + 1) := Nat.pow_le_pow_right (by decide) (by omega)
    obtain ⟨q, hq⟩ := Nat.exists_eq_add_of_le hone
    have hproduct : 10 * q ≤ 10 ^ (k + 1) * q := Nat.mul_le_mul_right q (by omega)
    rw [hgrow, hq, Nat.mul_add, Nat.mul_one] at hmany
    omega

end

end SelfMeasure
