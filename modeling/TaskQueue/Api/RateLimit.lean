import Mathlib
set_option autoImplicit false

namespace TaskQueue

/-- `RateLimiter`, a token bucket. Times are in seconds, in the same field as the tokens, so
that `now.Sub(rl.lastRefill).Seconds()` is a subtraction. -/
structure RateLimiter (α : Type) where
  tokens : α
  maxTokens : α
  refillRate : α
  lastRefill : α

namespace RateLimiter

variable {α : Type} [LinearOrderedField α]

def newRateLimiter (rps : Int) (now : α) : RateLimiter α :=
  let rps := if rps ≤ 0 then 1000 else rps
  ⟨rps, rps, rps, now⟩

def refilled (rl : RateLimiter α) (now : α) : α :=
  let tokens := rl.tokens + (now - rl.lastRefill) * rl.refillRate
  if tokens > rl.maxTokens then rl.maxTokens else tokens

/-- `Allow` at time `now`: refill, then take a token if there is a whole one. -/
def allow (rl : RateLimiter α) (now : α) : Bool × RateLimiter α :=
  let rl := { rl with tokens := rl.refilled now, lastRefill := now }
  if rl.tokens ≥ 1 then (true, { rl with tokens := rl.tokens - 1 }) else (false, rl)

def allowAll (rl : RateLimiter α) (ts : List α) : RateLimiter α :=
  ts.foldl (fun rl t => (rl.allow t).2) rl

def allowed : RateLimiter α → List α → List Bool
  | _, [] => []
  | rl, t :: ts => (rl.allow t).1 :: allowed (rl.allow t).2 ts

section Allow

variable (rl : RateLimiter α) (now : α)

theorem refilled_eq_min :
    rl.refilled now = min (rl.tokens + (now - rl.lastRefill) * rl.refillRate) rl.maxTokens := by
  simp only [refilled]
  split_ifs with h
  · exact (min_eq_right h.le).symm
  · exact (min_eq_left (not_lt.1 h)).symm

theorem allow_eq : rl.allow now =
    if 1 ≤ rl.refilled now then (true, ⟨rl.refilled now - 1, rl.maxTokens, rl.refillRate, now⟩)
    else (false, ⟨rl.refilled now, rl.maxTokens, rl.refillRate, now⟩) := rfl

@[simp] theorem allow_maxTokens : (rl.allow now).2.maxTokens = rl.maxTokens := by
  rw [allow_eq]; split <;> rfl

@[simp] theorem allow_refillRate : (rl.allow now).2.refillRate = rl.refillRate := by
  rw [allow_eq]; split <;> rfl

@[simp] theorem allow_lastRefill : (rl.allow now).2.lastRefill = now := by
  rw [allow_eq]; split <;> rfl

theorem allow_tokens_add :
    (rl.allow now).2.tokens + (if (rl.allow now).1 then 1 else 0) = rl.refilled now := by
  rw [allow_eq]; split <;> simp

end Allow

def Inv (rl : RateLimiter α) : Prop := 0 ≤ rl.tokens ∧ rl.tokens ≤ rl.maxTokens

theorem inv_allow {rl : RateLimiter α} {now : α} (h : rl.Inv) (hr : 0 ≤ rl.refillRate)
    (ht : rl.lastRefill ≤ now) : (rl.allow now).2.Inv := by
  have hlow : 0 ≤ rl.refilled now := by
    rw [refilled_eq_min]
    exact le_min (add_nonneg h.1 (mul_nonneg (sub_nonneg.2 ht) hr)) (h.1.trans h.2)
  have hmax : rl.refilled now ≤ rl.maxTokens := by rw [refilled_eq_min]; exact min_le_right _ _
  rw [allow_eq]
  split_ifs with h1
  · exact ⟨by simpa using h1, by simp only; linarith⟩
  · exact ⟨hlow, hmax⟩

section Run

variable (rl : RateLimiter α)

@[simp] theorem allowAll_nil : rl.allowAll [] = rl := rfl

@[simp] theorem allowAll_cons (t : α) (ts : List α) :
    rl.allowAll (t :: ts) = (rl.allow t).2.allowAll ts := rfl

theorem allowAll_append (xs ys : List α) :
    rl.allowAll (xs ++ ys) = (rl.allowAll xs).allowAll ys := List.foldl_append ..

@[simp] theorem allowAll_maxTokens (ts : List α) : (rl.allowAll ts).maxTokens = rl.maxTokens := by
  induction ts generalizing rl <;> simp [*]

@[simp] theorem allowAll_refillRate (ts : List α) :
    (rl.allowAll ts).refillRate = rl.refillRate := by
  induction ts generalizing rl <;> simp [*]

theorem allowAll_concat_lastRefill (ts : List α) (t : α) :
    (rl.allowAll (ts ++ [t])).lastRefill = t := by
  simp [allowAll_append]

@[simp] theorem length_allowed (ts : List α) : (rl.allowed ts).length = ts.length := by
  induction ts generalizing rl <;> simp [allowed, *]

theorem allowed_take (ts : List α) (n : Nat) : (rl.allowed ts).take n = rl.allowed (ts.take n) := by
  induction ts generalizing rl n with
  | nil => simp [allowed]
  | cons t ts ih => cases n <;> simp [allowed, ih]

theorem allowed_drop (ts : List α) (n : Nat) :
    (rl.allowed ts).drop n = (rl.allowAll (ts.take n)).allowed (ts.drop n) := by
  induction ts generalizing rl n with
  | nil => simp [allowed]
  | cons t ts ih => cases n <;> simp [allowed, ih]

theorem count_allowed_cons (t : α) (ts : List α) :
    ((rl.allowed (t :: ts)).count true : α) =
      (((rl.allow t).2.allowed ts).count true : α) + if (rl.allow t).1 then 1 else 0 := by
  simp only [allowed, List.count_cons, beq_iff_eq]; push_cast; rfl

theorem count_allowed_add_tokens (ts : List α) :
    ((rl.allowed ts).count true : α) + (rl.allowAll ts).tokens ≤
      rl.tokens + rl.refillRate * ((rl.allowAll ts).lastRefill - rl.lastRefill) := by
  induction ts generalizing rl with
  | nil => simp [allowed]
  | cons t ts ih =>
    have hadd := allow_tokens_add rl t
    have hle : rl.refilled t ≤ rl.tokens + (t - rl.lastRefill) * rl.refillRate := by
      rw [refilled_eq_min]; exact min_le_left _ _
    have hrun := ih (rl.allow t).2
    simp only [allow_refillRate, allow_lastRefill] at hrun
    rw [count_allowed_cons, allowAll_cons]
    linarith

theorem count_allowed_window (t : α) (ts : List α) :
    ((rl.allowed (t :: ts)).count true : α) + (rl.allowAll (t :: ts)).tokens ≤
      rl.maxTokens + rl.refillRate * ((rl.allowAll (t :: ts)).lastRefill - t) := by
  have hadd := allow_tokens_add rl t
  have hmax : rl.refilled t ≤ rl.maxTokens := by rw [refilled_eq_min]; exact min_le_right _ _
  have hrun := count_allowed_add_tokens (rl.allow t).2 ts
  simp only [allow_refillRate, allow_lastRefill] at hrun
  rw [count_allowed_cons, allowAll_cons]
  linarith

theorem inv_allowAll {rl : RateLimiter α} (h : rl.Inv) (hr : 0 ≤ rl.refillRate) {ts : List α}
    (hts : (rl.lastRefill :: ts).Pairwise (· ≤ ·)) : (rl.allowAll ts).Inv := by
  induction ts generalizing rl with
  | nil => exact h
  | cons t ts ih =>
    rw [List.pairwise_cons] at hts
    refine ih (inv_allow h hr (hts.1 t (List.mem_cons_self t ts))) (by simpa using hr) ?_
    simpa using hts.2

end Run

theorem newRateLimiter_of_pos {rps : Int} (h : 0 < rps) (now : α) :
    newRateLimiter rps now = ⟨rps, rps, rps, now⟩ := by
  simp [newRateLimiter, not_le.2 h]

/-- The token bucket over every run after `NewRateLimiter rps` at `t0`, with calls at
non-decreasing times `ts`: the bucket stays within [0, maxTokens] after every call, and the calls
`i..j` are granted at most `maxTokens + rps * (ts[j] - ts[i])` times. -/
theorem allow_token_bucket_bound (rps : Int) (hrps : 0 < rps) (t0 : ℝ) (ts : List ℝ)
    (hts : (t0 :: ts).Pairwise (· ≤ ·)) :
    let rl : RateLimiter ℝ := newRateLimiter rps t0
    (∀ k, 0 ≤ (rl.allowAll (ts.take k)).tokens ∧
        (rl.allowAll (ts.take k)).tokens ≤ rl.maxTokens) ∧
      ∀ i j (hij : i ≤ j) (hj : j < ts.length),
        ((((rl.allowed ts).drop i).take (j + 1 - i)).count true : ℝ) ≤
          rl.maxTokens + rps * (ts[j] - ts[i]) := by
  intro rl
  have hrl : rl = ⟨rps, rps, rps, t0⟩ := newRateLimiter_of_pos hrps t0
  have hr : (0 : ℝ) ≤ rps := by exact_mod_cast hrps.le
  have hpre : ∀ k, (rl.allowAll (ts.take k)).Inv := fun k =>
    inv_allowAll (by rw [hrl]; exact ⟨hr, le_rfl⟩) (by rw [hrl]; exact hr)
      (by rw [hrl]; exact hts.sublist ((List.take_sublist k ts).cons₂ t0))
  refine ⟨fun k => ⟨(hpre k).1, by simpa using (hpre k).2⟩, fun i j hij hj => ?_⟩
  have hwin : (ts.drop i).take (j + 1 - i) = ts[i] :: (ts.drop (i + 1)).take (j - i) := by
    rw [List.drop_eq_getElem_cons (by omega), show j + 1 - i = j - i + 1 by omega,
      List.take_succ_cons]
  have hend : (rl.allowAll (ts.take i)).allowAll ((ts.drop i).take (j + 1 - i)) =
      rl.allowAll (ts.take (j + 1)) := by
    rw [← allowAll_append, ← List.take_add, show i + (j + 1 - i) = j + 1 by omega]
  have hlast : (rl.allowAll (ts.take (j + 1))).lastRefill = ts[j] := by
    rw [List.take_succ, List.getElem?_eq_getElem hj]; exact allowAll_concat_lastRefill ..
  have hw := count_allowed_window (rl.allowAll (ts.take i)) ts[i] ((ts.drop (i + 1)).take (j - i))
  rw [← hwin, hend, hlast, allowAll_maxTokens, allowAll_refillRate,
    show rl.refillRate = (rps : ℝ) by rw [hrl]] at hw
  rw [allowed_drop, allowed_take]
  linarith [(hpre (j + 1)).1]

theorem allow_token_bucket_bound_two_per_second :
    (0 : Int) < 2 ∧ ((0 : ℝ) :: [0, 0, 0, 3 / 4]).Pairwise (· ≤ ·) ∧
      let rl : RateLimiter ℝ := newRateLimiter 2 0
      let ts : List ℝ := [0, 0, 0, 3 / 4]
      (∀ k, 0 ≤ (rl.allowAll (ts.take k)).tokens ∧
          (rl.allowAll (ts.take k)).tokens ≤ rl.maxTokens) ∧
        ∀ i j (hij : i ≤ j) (hj : j < ts.length),
          ((((rl.allowed ts).drop i).take (j + 1 - i)).count true : ℝ) ≤
            rl.maxTokens + (2 : Int) * (ts[j] - ts[i]) := by
  have hts : ((0 : ℝ) :: [0, 0, 0, 3 / 4]).Pairwise (· ≤ ·) := by norm_num
  exact ⟨by decide, hts, allow_token_bucket_bound 2 (by decide) 0 [0, 0, 0, 3 / 4] hts⟩

end RateLimiter
end TaskQueue
