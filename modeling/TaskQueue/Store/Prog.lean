import TaskQueue.Store.Redis
set_option autoImplicit false

namespace TaskQueue

inductive Outcome
  | ok (result : Option String)
  | err (msg : Error)
  | deadlineExceeded
  | canceled
  | panic (value : String)
  deriving DecidableEq, Repr

/-- A procedure of the Go code as the effects it has: commands sent to the store, clock
readings and handler calls, each effect carrying the rest of the procedure. -/
inductive Prog (α : Type) : Type 1
  | ret (a : α)
  | redis {β : Type} (c : Redis.Cmd β) (k : Except Error β → Prog α)
  | time (k : Nat → Prog α)
  | handler (t : Task) (k : Outcome → Prog α)

namespace Prog

def bind {α β : Type} : Prog α → (α → Prog β) → Prog β
  | ret a, f => f a
  | redis c k, f => redis c fun r => (k r).bind f
  | time k, f => time fun n => (k n).bind f
  | handler t k, f => handler t fun o => (k o).bind f

instance : Monad Prog where
  pure := ret
  bind := bind

def exec {β : Type} (c : Redis.Cmd β) : Prog (Except Error β) := redis c ret

def timeNow : Prog Nat := time ret

def call (t : Task) : Prog Outcome := handler t ret

@[simp] theorem pure_eq {α : Type} (a : α) : (pure a : Prog α) = ret a := rfl

@[simp] theorem bind_eq {α β : Type} (p : Prog α) (f : α → Prog β) : p >>= f = p.bind f := rfl

@[simp] theorem ret_bind {α β : Type} (a : α) (f : α → Prog β) : (ret a).bind f = f a := rfl

def storeFailure : Error := "redis: connection failure"

structure World where
  store : Redis.Store
  faults : List Bool
  calls : List Task

/-- Runs a procedure alone against the store, the handler answering with `h`. -/
def run {α : Type} (h : Task → Outcome) : Prog α → World → α × World
  | ret a, w => (a, w)
  | redis c k, w =>
    if w.faults.head? = some true then
      run h (k (.error storeFailure)) { w with faults := w.faults.tail }
    else run h (k (c.run w.store).1) { w with store := (c.run w.store).2, faults := w.faults.tail }
  | time k, w => run h (k w.store.clock) w
  | handler t k, w => run h (k (h t)) { w with calls := w.calls ++ [t] }

theorem run_bind {α β : Type} (h : Task → Outcome) (p : Prog α) (f : α → Prog β) (w : World) :
    run h (p.bind f) w = run h (f (run h p w).1) (run h p w).2 := by
  induction p generalizing w with
  | ret a => rfl
  | redis c k ih => simp only [bind, run]; split <;> simp only [ih]
  | time k ih => simp only [bind, run, ih]
  | handler t k ih => simp only [bind, run, ih]

section Faultless

/-! Runs in which no store command fails. -/

variable {α γ : Type} (h : Task → Outcome) (s : Redis.Store) (calls : List Task)

@[simp] theorem run_exec_bind (c : Redis.Cmd γ) (f : Except Error γ → Prog α) :
    run h ((exec c).bind f) ⟨s, [], calls⟩ = run h (f (c.run s).1) ⟨(c.run s).2, [], calls⟩ := rfl

@[simp] theorem run_timeNow_bind (f : Nat → Prog α) (w : World) :
    run h (timeNow.bind f) w = run h (f w.store.clock) w := rfl

@[simp] theorem run_call_bind (t : Task) (f : Outcome → Prog α) (w : World) :
    run h ((call t).bind f) w = run h (f (h t)) { w with calls := w.calls ++ [t] } := rfl

end Faultless

end Prog
end TaskQueue
