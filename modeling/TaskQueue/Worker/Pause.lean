import Mathlib.Data.List.Basic
set_option autoImplicit false

namespace TaskQueue.Worker

inductive State
  | idle | busy | paused | shuttingDown
  deriving DecidableEq, Repr

/-- Where a worker goroutine is in its loop, between its steps on the pool's fields. A resume
channel is the number of the `make` that created it: `NewPool` makes channel 0 and each
`Resume` closes the current one and makes the next. -/
inductive Loc
  /-- The top of the loop: the select on `ctx.Done()` and `stopCh` with a default. -/
  | loop
  /-- About to call `p.State()`. -/
  | checkState
  /-- `State()` answered paused: about to evaluate `p.resumeCh` for the select. -/
  | selectResume
  /-- In the select on resume channel `ch`, `stopCh` and `ctx.Done()`. -/
  | waiting (ch : Nat)
  /-- Past the local pause: the Redis pause flag, the semaphore and `processNextTask`. -/
  | fetch
  | exited
  deriving DecidableEq, Repr

/-- The fields of `Pool` that `Pause`, `Resume`, `Stop` and the worker loops share, the
context's state, and where each worker is. -/
structure Sync where
  state : State
  resumeCh : Nat
  stopped : Bool
  ctxDone : Bool
  workers : List Loc
  deriving DecidableEq, Repr

inductive Act
  | pause | resume | stop | cancel
  | worker (i : Nat) (exit : Bool)
  deriving DecidableEq, Repr

def Act.keepsBusy : Act → Bool
  | .resume | .worker _ _ => true
  | _ => false

namespace Sync

def start (n : Nat) : Sync := ⟨.busy, 0, false, false, List.replicate n .loop⟩

def pause (s : Sync) : Sync := if s.state = .busy then { s with state := .paused } else s

def resume (s : Sync) : Sync :=
  if s.state = .paused then { s with state := .busy, resumeCh := s.resumeCh + 1 } else s

/-- `Stop`: shutting down with `stopCh` closed. A second `Stop` closes a closed channel, which
panics; it is no step. -/
def stop (s : Sync) : Option Sync :=
  if s.stopped then none else some { s with state := .shuttingDown, stopped := true }

def closed (s : Sync) (ch : Nat) : Bool := ch < s.resumeCh

def workerStep (s : Sync) (exit : Bool) : Loc → Option Loc
  | .loop => some (if s.ctxDone || s.stopped then .exited else .checkState)
  | .checkState => some (if s.state = .paused then .selectResume else .fetch)
  | .selectResume => some (.waiting s.resumeCh)
  | .waiting ch =>
    match s.closed ch, s.stopped || s.ctxDone with
    | true, true => some (if exit then .exited else .fetch)
    | true, false => some .fetch
    | false, true => some .exited
    | false, false => none
  | .fetch => some .loop
  | .exited => none

def step (s : Sync) : Act → Option Sync
  | .pause => some s.pause
  | .resume => some s.resume
  | .stop => s.stop
  | .cancel => some { s with ctxDone := true }
  | .worker i exit => do
    let l ← s.workers[i]?
    let l' ← s.workerStep exit l
    return { s with workers := s.workers.set i l' }

def run (s : Sync) : List Act → Option Sync
  | [] => some s
  | a :: as => (s.step a).bind (·.run as)

/-- A worker waiting on a resume channel that is still open, with `stopCh` and the context
open too: no case of its select is ready. -/
def blocked (s : Sync) : Loc → Bool
  | .waiting ch => !s.closed ch && !(s.stopped || s.ctxDone)
  | _ => false

inductive Reachable (n : Nat) : Sync → Prop
  | start : Reachable n (start n)
  | step {s s' : Sync} {a : Act} : Reachable n s → s.step a = some s' → Reachable n s'

theorem reachable_of_run {n : Nat} {s s' : Sync} (hs : Reachable n s) :
    ∀ {as : List Act}, s.run as = some s' → Reachable n s' := by
  intro as
  induction as generalizing s with
  | nil => intro h; cases h; exact hs
  | cons a as ih =>
    intro h
    simp only [run, Option.bind_eq_some] at h
    obtain ⟨s₁, h₁, h₂⟩ := h
    exact ih (hs.step h₁) h₂

section Inv

variable {s s' : Sync}

@[simp] theorem pause_workers : s.pause.workers = s.workers := by unfold pause; split <;> rfl

@[simp] theorem pause_resumeCh : s.pause.resumeCh = s.resumeCh := by unfold pause; split <;> rfl

@[simp] theorem resume_workers : s.resume.workers = s.workers := by unfold resume; split <;> rfl

theorem stop_eq_some (h : s.stop = some s') :
    s' = { s with state := .shuttingDown, stopped := true } := by
  simp only [stop, Option.ite_none_left_eq_some, Option.some.injEq] at h
  exact h.2.symm

theorem step_worker_eq_some {i : Nat} {e : Bool} (h : s.step (.worker i e) = some s') :
    ∃ l l', s.workers[i]? = some l ∧ s.workerStep e l = some l' ∧
      s' = { s with workers := s.workers.set i l' } := by
  simp only [step, Option.bind_eq_bind, Option.bind_eq_some, Option.pure_def,
    Option.some.injEq] at h
  obtain ⟨l, hl, l', hl', rfl⟩ := h
  exact ⟨l, l', hl, hl', rfl⟩

theorem workerStep_eq_waiting {e : Bool} {l : Loc} {ch : Nat}
    (h : s.workerStep e l = some (.waiting ch)) : ch = s.resumeCh := by
  cases l with
  | waiting c => simp only [workerStep] at h; split at h <;> (try split at h) <;> cases h
  | _ => simp only [workerStep, Option.some.injEq] at h; (try split at h) <;> cases h <;> rfl

@[simp] theorem blocked_with_workers (ws : List Loc) (l : Loc) :
    { s with workers := ws }.blocked l = s.blocked l := by
  cases l <;> rfl

def Inv (s : Sync) : Prop := ∀ ch, Loc.waiting ch ∈ s.workers → ch ≤ s.resumeCh

theorem inv_start (n : Nat) : (start n).Inv := by
  intro ch h
  simp [start, List.mem_replicate] at h

theorem inv_step {a : Act} (hi : s.Inv) (h : s.step a = some s') : s'.Inv := by
  cases a with
  | pause => cases h; simpa [Inv] using hi
  | resume =>
    cases h; unfold resume; split
    · exact fun ch hc => Nat.le_succ_of_le (hi ch hc)
    · exact hi
  | stop => rw [stop_eq_some h]; exact hi
  | cancel => cases h; exact hi
  | worker i e =>
    obtain ⟨l, l', -, hl', rfl⟩ := step_worker_eq_some h
    intro ch hc
    rcases List.mem_or_eq_of_mem_set hc with hc | hc
    · exact hi ch hc
    · exact (workerStep_eq_waiting (hc ▸ hl')).le

theorem Reachable.inv {n : Nat} (h : Reachable n s) : s.Inv := by
  induction h with
  | start => exact inv_start n
  | step _ hs ih => exact inv_step ih hs

theorem Reachable.pause_resume_unblocks {n : Nat} (hr : Reachable n s) (hbusy : s.state = .busy) :
    ∀ l ∈ s.pause.resume.workers, s.pause.resume.blocked l = false := by
  have hpr : s.pause.resume = { s with resumeCh := s.resumeCh + 1 } := by
    simp [pause, resume, hbusy]
  rw [hpr]
  intro l hl
  cases l with
  | waiting ch => simp [blocked, closed, Nat.lt_succ_of_le (hr.inv ch hl)]
  | _ => rfl

theorem step_keeps_blocked {a : Act} {i : Nat} {l : Loc} (ha : a.keepsBusy)
    (h : s.step a = some s') (hbusy : s.state = .busy) (hi : s.workers[i]? = some l)
    (hb : s.blocked l = true) :
    s'.state = .busy ∧ s'.workers[i]? = some l ∧ s'.blocked l = true := by
  cases a with
  | resume => cases h; simp [resume, hbusy, hi, hb]
  | worker j e =>
    obtain ⟨l₀, l', hl₀, hl', rfl⟩ := step_worker_eq_some h
    by_cases hij : j = i
    · subst hij
      obtain rfl : l₀ = l := Option.some.inj (hl₀.symm.trans hi)
      cases l₀ with
      | waiting ch =>
        simp only [blocked, Bool.and_eq_true, Bool.not_eq_true'] at hb
        simp [workerStep, hb] at hl'
      | _ => cases hb
    · exact ⟨hbusy, by rw [List.getElem?_set_ne hij]; exact hi, by simpa using hb⟩
  | _ => cases ha

theorem run_keeps_blocked {as : List Act} {i : Nat} {l : Loc} (ha : ∀ a ∈ as, a.keepsBusy)
    (h : s.run as = some s') (hbusy : s.state = .busy) (hi : s.workers[i]? = some l)
    (hb : s.blocked l = true) :
    s'.state = .busy ∧ s'.workers[i]? = some l ∧ s'.blocked l = true := by
  induction as generalizing s with
  | nil => cases h; exact ⟨hbusy, hi, hb⟩
  | cons a as ih =>
    simp only [run, Option.bind_eq_some] at h
    obtain ⟨s₁, h₁, h₂⟩ := h
    obtain ⟨hbusy₁, hi₁, hb₁⟩ := step_keeps_blocked (ha a (List.mem_cons_self a as)) h₁ hbusy hi hb
    exact ih (fun a' h' => ha a' (List.mem_cons_of_mem a h')) h₂ hbusy₁ hi₁ hb₁

end Inv

/-- Pause; the worker's `State()` answers paused; Resume; the worker reads the new `resumeCh`.
The pool is busy again and its worker waits on a channel that no Resume call or worker step
closes; only a Pause followed by a Resume wakes it. -/
theorem resume_wakeup_lost :
    ∃ s, Reachable 1 s ∧ s.state = .busy ∧ ∃ l, s.workers[0]? = some l ∧ s.blocked l = true ∧
      (∀ as s', (∀ a ∈ as, a.keepsBusy) → s.run as = some s' →
        s'.state = .busy ∧ s'.workers[0]? = some l ∧ s'.blocked l = true) ∧
      ∀ l' ∈ s.pause.resume.workers, s.pause.resume.blocked l' = false := by
  have h : (start 1).run [.worker 0 false, .pause, .worker 0 false, .resume, .worker 0 false] =
      some ⟨.busy, 1, false, false, [.waiting 1]⟩ := by decide
  have hr := reachable_of_run .start h
  exact ⟨_, hr, rfl, .waiting 1, rfl, rfl, fun _ _ ha hs => run_keeps_blocked ha hs rfl rfl rfl,
    hr.pause_resume_unblocks rfl⟩

end Sync
end TaskQueue.Worker
