import Mathlib.Algebra.Group.Int.Defs
import Mathlib.Algebra.Group.Nat.Defs
import Mathlib.Order.Lattice
import Mathlib.Data.Int.Order.Basic
import Mathlib.Tactic.Common

/-!
# Durations

A `time.Duration` is a signed number of 64 bits, in nanoseconds. Products and differences of
durations wrap around (`wrapInt64`), and the difference of two instants is cut off at the ends of
the range (`timeSub`). Within the range both are what they are without it.
-/

namespace Kubepark

/-- `d` is a `time.Duration`. -/
def IsInt64 (d : Int) : Prop :=
  -2 ^ 63 ≤ d ∧ d < 2 ^ 63

/-- The result of an operation on durations. -/
def wrapInt64 (d : Int) : Int :=
  d.bmod (2 ^ 64)

/-- `t.Sub(u)`. -/
def timeSub (t u : Int) : Int :=
  max (-2 ^ 63) (min (t - u) (2 ^ 63 - 1))

section

variable {d t u : Int}

theorem isInt64_wrapInt64 (d : Int) : IsInt64 (wrapInt64 d) := by
  have hle : -((2 ^ 64 : Nat) / 2 : Int) ≤ wrapInt64 d := Int.le_bmod (by decide)
  have hlt : wrapInt64 d < (((2 ^ 64 : Nat) : Int) + 1) / 2 := Int.bmod_lt (by decide)
  unfold IsInt64
  omega

theorem wrapInt64_of_isInt64 (h : IsInt64 d) : wrapInt64 d = d := by
  obtain ⟨hle, hlt⟩ := h
  refine Int.bmod_eq_of_le ?_ ?_ <;> omega

/-- A number that is too large wraps around to a smaller one. -/
theorem wrapInt64_le (h : -2 ^ 63 ≤ d) : wrapInt64 d ≤ d := by
  unfold wrapInt64
  rw [Int.bmod_def]
  split_ifs <;> omega

/-- A difference of durations is positive if it is, and fits. -/
theorem wrapInt64_pos_iff (h : 0 ≤ d) (hlt : d < 2 ^ 64) :
    0 < wrapInt64 d ↔ 0 < d ∧ d < 2 ^ 63 := by
  unfold wrapInt64
  rw [Int.bmod_def]
  split_ifs <;> omega

theorem isInt64_timeSub (t u : Int) : IsInt64 (timeSub t u) := by
  unfold IsInt64 timeSub
  omega

theorem le_timeSub_iff (hlow : -2 ^ 63 < d) (hhigh : d < 2 ^ 63) : d ≤ timeSub t u ↔ d ≤ t - u := by
  unfold timeSub
  omega

theorem lt_timeSub_iff (hlow : -2 ^ 63 ≤ d) (hhigh : d < 2 ^ 63 - 1) :
    d < timeSub t u ↔ d < t - u := by
  unfold timeSub
  omega

/-- What has passed by the clock has passed. -/
theorem lt_sub_of_lt_timeSub (hlow : -2 ^ 63 ≤ d) (h : d < timeSub t u) : d < t - u := by
  unfold timeSub at h
  omega

theorem timeSub_le_of_sub_le (hlow : -2 ^ 63 ≤ d) (h : t - u ≤ d) : timeSub t u ≤ d := by
  unfold timeSub
  omega

/-- The delay that is left at `t` until `d` after `u` is positive if it fits. -/
theorem wrapInt64_delay_pos_iff (hd : IsInt64 d) (hle : timeSub t u ≤ d) :
    0 < wrapInt64 (d - timeSub t u) ↔ timeSub t u ≠ d ∧ d - timeSub t u < 2 ^ 63 := by
  obtain ⟨hlow, -⟩ := isInt64_timeSub t u
  obtain ⟨-, hhigh⟩ := hd
  rw [wrapInt64_pos_iff (by omega) (by omega)]
  omega

/-- It is not more than there is. -/
theorem wrapInt64_delay_le (hd : IsInt64 d) (hle : timeSub t u ≤ d)
    (hpos : 0 < wrapInt64 (d - timeSub t u)) : wrapInt64 (d - timeSub t u) ≤ u + d - t := by
  obtain ⟨hne, hfits⟩ := (wrapInt64_delay_pos_iff hd hle).mp hpos
  have hlt : timeSub t u < 2 ^ 63 - 1 := by
    obtain ⟨-, hhigh⟩ := hd
    omega
  -- The difference is not cut off at the upper end.
  have hsub : t - u ≤ timeSub t u := by
    unfold timeSub at hlt ⊢
    omega
  rw [wrapInt64_of_isInt64 ⟨by omega, hfits⟩]
  omega

end

end Kubepark
