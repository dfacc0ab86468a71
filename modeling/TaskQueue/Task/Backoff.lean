import Mathlib
set_option autoImplicit false

namespace TaskQueue

/-- `RetryPolicy` as `CalculateBackoff` reads it: durations in nanoseconds, the float64 fields
in an exact ordered field. -/
structure RetryPolicy (α : Type) where
  initialBackoff : Int
  maxBackoff : Int
  backoffFactor : α
  jitterFactor : α

namespace RetryPolicy

variable {α : Type} [LinearOrderedField α]

def defaultRetryPolicy : RetryPolicy α := ⟨1000000000, 300000000000, 2, 1 / 10⟩

def cappedBackoff (p : RetryPolicy α) (n : Nat) : α :=
  let backoff := (p.initialBackoff : α) * p.backoffFactor ^ n
  if backoff > p.maxBackoff then p.maxBackoff else backoff

section Capped

variable (p : RetryPolicy α)

theorem cappedBackoff_eq_min (n : Nat) :
    p.cappedBackoff n = min ((p.initialBackoff : α) * p.backoffFactor ^ n) p.maxBackoff := by
  simp only [cappedBackoff]
  split_ifs with h
  · exact (min_eq_right h.le).symm
  · exact (min_eq_left (not_lt.1 h)).symm

variable {p} (h0 : 0 < p.initialBackoff) (hf : 1 ≤ p.backoffFactor)
include h0 hf

theorem cappedBackoff_mono : Monotone p.cappedBackoff := fun m n hmn => by
  have h0' : (0 : α) ≤ p.initialBackoff := Int.cast_nonneg.2 h0.le
  simp only [cappedBackoff_eq_min]
  exact min_le_min (mul_le_mul_of_nonneg_left (pow_le_pow_right₀ hf hmn) h0') le_rfl

theorem initialBackoff_le_cappedBackoff (hmax : p.initialBackoff ≤ p.maxBackoff) (n : Nat) :
    (p.initialBackoff : α) ≤ p.cappedBackoff n := by
  have h0' : (0 : α) ≤ p.initialBackoff := Int.cast_nonneg.2 h0.le
  rw [cappedBackoff_eq_min]
  exact le_min (le_mul_of_one_le_right h0' (one_le_pow₀ hf)) (Int.cast_le.2 hmax)

theorem cappedBackoff_nonneg (hmax : p.initialBackoff ≤ p.maxBackoff) (n : Nat) :
    0 ≤ p.cappedBackoff n :=
  le_trans (Int.cast_nonneg.2 h0.le) (initialBackoff_le_cappedBackoff h0 hf hmax n)

end Capped

section Jitter

variable {J u : α} (hj0 : 0 ≤ J)
include hj0

theorem one_sub_le_jitter (hu0 : 0 ≤ u) : 1 - J ≤ 1 + J * (u * 2 - 1) := by
  refine le_of_sub_nonneg ?_
  rw [show 1 + J * (u * 2 - 1) - (1 - J) = J * u + J * u by ring]
  exact add_nonneg (mul_nonneg hj0 hu0) (mul_nonneg hj0 hu0)

theorem jitter_le_one_add (hu1 : u ≤ 1) : 1 + J * (u * 2 - 1) ≤ 1 + J := by
  refine le_of_sub_nonneg ?_
  rw [show 1 + J - (1 + J * (u * 2 - 1)) = J * (1 - u) + J * (1 - u) by ring]
  exact add_nonneg (mul_nonneg hj0 (sub_nonneg.2 hu1)) (mul_nonneg hj0 (sub_nonneg.2 hu1))

end Jitter

variable [FloorRing α]

def toDuration (x : α) : Int := if 0 ≤ x then ⌊x⌋ else ⌈x⌉

/-- `CalculateBackoff`, with the draw of `rand.Float64()` as the argument `u`. -/
def calculateBackoff (p : RetryPolicy α) (attempt : Int) (u : α) : Int :=
  if attempt ≤ 0 then p.initialBackoff
  else
    let backoff := p.cappedBackoff attempt.toNat
    let backoff := if p.jitterFactor > 0 then
        backoff + backoff * p.jitterFactor * (u * 2 - 1)
      else backoff
    let backoff := if backoff < 0 then (p.initialBackoff : α) else backoff
    toDuration backoff

theorem toDuration_of_nonneg {x : α} (hx : 0 ≤ x) : toDuration x = ⌊x⌋ := if_pos hx

theorem toDuration_le {x : α} (hx : 0 ≤ x) : (toDuration x : α) ≤ x := by
  rw [toDuration_of_nonneg hx]; exact Int.floor_le x

theorem le_toDuration {x : α} {z : Int} (hx : 0 ≤ x) (h : (z : α) ≤ x) : z ≤ toDuration x := by
  rw [toDuration_of_nonneg hx]; exact Int.le_floor.2 h

/-- For a draw in [0, 1] and a jitter factor in [0, 1], the jitter scales the capped delay by
a factor in [1 - J, 1 + J], which never takes it below zero: what `CalculateBackoff` returns is
that product, truncated. -/
theorem calculateBackoff_eq {p : RetryPolicy α} {attempt : Int} {u : α} (hn : 0 < attempt)
    (hc : 0 ≤ p.cappedBackoff attempt.toNat) (hj0 : 0 ≤ p.jitterFactor)
    (hj1 : p.jitterFactor ≤ 1) (hu0 : 0 ≤ u) :
    p.calculateBackoff attempt u =
      toDuration (p.cappedBackoff attempt.toNat * (1 + p.jitterFactor * (u * 2 - 1))) := by
  have hpos : 0 ≤ p.cappedBackoff attempt.toNat * (1 + p.jitterFactor * (u * 2 - 1)) :=
    mul_nonneg hc ((sub_nonneg.2 hj1).trans (one_sub_le_jitter hj0 hu0))
  have hjit : (if p.jitterFactor > 0 then
        p.cappedBackoff attempt.toNat +
          p.cappedBackoff attempt.toNat * p.jitterFactor * (u * 2 - 1)
      else p.cappedBackoff attempt.toNat) =
      p.cappedBackoff attempt.toNat * (1 + p.jitterFactor * (u * 2 - 1)) := by
    split_ifs with hj
    · ring
    · simp [le_antisymm (not_lt.1 hj) hj0]
  simp only [calculateBackoff, if_neg (not_le.2 hn), hjit, if_neg (not_lt.2 hpos)]

section Bounds

variable {p : RetryPolicy α} (h0 : 0 < p.initialBackoff) (hmax : p.initialBackoff ≤ p.maxBackoff)
  (hf : 1 ≤ p.backoffFactor) (hj0 : 0 ≤ p.jitterFactor) (hj1 : p.jitterFactor ≤ 1)
  {n : Int} (hn : 0 < n) {u : α} (hu0 : 0 ≤ u)
include h0 hmax hf hj0 hj1 hn hu0

theorem calculateBackoff_le (hu1 : u ≤ 1) :
    (p.calculateBackoff n u : α) ≤ (1 + p.jitterFactor) * p.cappedBackoff n.toNat := by
  have hc := cappedBackoff_nonneg h0 hf hmax n.toNat
  rw [calculateBackoff_eq hn hc hj0 hj1 hu0, mul_comm (1 + p.jitterFactor)]
  calc (toDuration (p.cappedBackoff n.toNat * (1 + p.jitterFactor * (u * 2 - 1))) : α)
      ≤ p.cappedBackoff n.toNat * (1 + p.jitterFactor * (u * 2 - 1)) :=
        toDuration_le (mul_nonneg hc ((sub_nonneg.2 hj1).trans (one_sub_le_jitter hj0 hu0)))
    _ ≤ p.cappedBackoff n.toNat * (1 + p.jitterFactor) :=
        mul_le_mul_of_nonneg_left (jitter_le_one_add hj0 hu1) hc

theorem initialBackoff_le_calculateBackoff
    (hlow : (p.initialBackoff : α) ≤ (1 - p.jitterFactor) * p.cappedBackoff n.toNat) :
    p.initialBackoff ≤ p.calculateBackoff n u := by
  have hc := cappedBackoff_nonneg h0 hf hmax n.toNat
  have hx : (1 - p.jitterFactor) * p.cappedBackoff n.toNat ≤
      p.cappedBackoff n.toNat * (1 + p.jitterFactor * (u * 2 - 1)) := by
    rw [mul_comm]; exact mul_le_mul_of_nonneg_left (one_sub_le_jitter hj0 hu0) hc
  rw [calculateBackoff_eq hn hc hj0 hj1 hu0]
  exact le_toDuration ((mul_nonneg (sub_nonneg.2 hj1) hc).trans hx) (hlow.trans hx)

end Bounds

theorem defaultRetryPolicy_bounds {n : Int} (hn : 0 < n) {u : α} (hu0 : 0 ≤ u) (hu1 : u ≤ 1) :
    let p : RetryPolicy α := defaultRetryPolicy
    p.initialBackoff ≤ p.calculateBackoff n u ∧
      (p.calculateBackoff n u : α) ≤ (1 + p.jitterFactor) * p.cappedBackoff n.toNat := by
  intro p
  have h0 : 0 < p.initialBackoff := (by decide : (0 : Int) < 1000000000)
  have hmax : p.initialBackoff ≤ p.maxBackoff := (by decide : (1000000000 : Int) ≤ 300000000000)
  have hf : 1 ≤ p.backoffFactor := one_le_two
  have hj0 : 0 ≤ p.jitterFactor := by norm_num [p, defaultRetryPolicy]
  have hj1 : p.jitterFactor ≤ 1 := by norm_num [p, defaultRetryPolicy]
  refine ⟨initialBackoff_le_calculateBackoff h0 hmax hf hj0 hj1 hn hu0 ?_,
    calculateBackoff_le h0 hmax hf hj0 hj1 hn hu0 hu1⟩
  calc (p.initialBackoff : α) ≤ (1 - p.jitterFactor) * p.cappedBackoff 1 := by
        norm_num [p, cappedBackoff, defaultRetryPolicy]
    _ ≤ (1 - p.jitterFactor) * p.cappedBackoff n.toNat :=
        mul_le_mul_of_nonneg_left (cappedBackoff_mono h0 hf (show 1 ≤ n.toNat by omega))
          (sub_nonneg.2 hj1)

/-- The default policy with factor 1: the first retry at the lowest draw waits 0.9 s, less than
the 1 s initial backoff. -/
theorem calculateBackoff_below_initial :
    let p : RetryPolicy ℝ := { defaultRetryPolicy with backoffFactor := 1 }
    p.calculateBackoff 1 0 = 900000000 ∧ p.calculateBackoff 1 0 < p.initialBackoff := by
  intro p
  have hv : p.calculateBackoff 1 0 = 900000000 := by
    norm_num [p, calculateBackoff, cappedBackoff, defaultRetryPolicy, toDuration]
  exact ⟨hv, by rw [hv]; decide⟩

end RetryPolicy
end TaskQueue
