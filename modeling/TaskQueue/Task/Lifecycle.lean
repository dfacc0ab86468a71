import TaskQueue.Task.StateMachine
set_option autoImplicit false

namespace TaskQueue.StateMachine

/-- The task after the calls `ops`, each made at its time whatever the earlier calls returned. -/
def runOps : Task → List (Op × Nat) → Task
  | t, [] => t
  | t, (op, now) :: rest => runOps (op.run now t).1 rest

def Monotone (clock : Nat) (ops : List (Op × Nat)) : Prop :=
  List.Chain (· ≤ ·) clock (ops.map Prod.snd)

def RequeuesAccepted : Task → List (Op × Nat) → Prop
  | _, [] => True
  | t, (op, now) :: rest =>
    (op = .requeue → (op.run now t).2 = none) ∧ RequeuesAccepted (op.run now t).1 rest

/-- The five properties the specification asks of every task reachable from `New`. -/
structure Wellformed (t : Task) : Prop where
  final_completedAt : t.state.isFinal → t.completedAt.isSome
  started_le_completed : ∀ s c, t.startedAt = some s → t.completedAt = some c → s ≤ c
  result_completed : t.result.isSome → t.state = .completed
  completed_attempts : t.state = .completed → 1 ≤ t.attempts ∧ t.error = ""
  attempts_le : t.attempts ≤ t.maxRetries + 1

/-- A retry's `Start` stamps `StartedAt` after the `CompletedAt` its failed attempt left. -/
theorem restart_after_failure_not_wellformed :
    let ops := [(Op.start "w1", 1), (.fail "boom", 2), (.retry, 3), (.start "w1", 4)]
    Monotone 0 ops ∧ ¬Wellformed (runOps (new "t1" "echo" .normal 0) ops) := by
  refine ⟨by simp [Monotone], fun h => ?_⟩
  exact absurd (h.started_le_completed 4 2 rfl rfl) (by decide)

/-- The timestamps never lie ahead of the last call, and a task in a final state started
no later than it ended. -/
def TimeInv (clock : Nat) (t : Task) : Prop :=
  (∀ s, t.startedAt = some s → s ≤ clock) ∧ (∀ c, t.completedAt = some c → c ≤ clock) ∧
    (t.state.isFinal → ∀ s c, t.startedAt = some s → t.completedAt = some c → s ≤ c)

/-- The attempt count stays within the budget, with room for one more `Start` in every state
that `Start` accepts. -/
def CountInv (t : Task) : Prop :=
  0 ≤ t.maxRetries ∧ 0 ≤ t.attempts ∧ t.attempts ≤ t.maxRetries + 1 ∧
    (t.state = .pending ∨ t.state = .scheduled → t.attempts ≤ t.maxRetries) ∧
    (t.state = .retrying → t.attempts < t.maxRetries)

def ResultInv (t : Task) : Prop :=
  (t.result.isSome → t.state = .completed) ∧ (t.state = .completed → t.error = "")

variable {clock now : Nat} {t : Task} {target : State}

theorem timeInv_stamp (h : TimeInv clock t) (hc : clock ≤ now) (target : State) :
    TimeInv now (stamp target now t) := by
  obtain ⟨hs, hcl, -⟩ := h
  have hs' : ∀ s, (stamp target now t).startedAt = some s → s ≤ now := by
    intro s e
    rw [stamp_startedAt] at e
    split at e
    · cases e; exact le_rfl
    · exact (hs s e).trans hc
  refine ⟨hs', fun c e => ?_, fun hf s c e₁ e₂ => ?_⟩
  · rw [stamp_completedAt] at e
    split at e
    · cases e; exact le_rfl
    · exact (hcl c e).trans hc
  · rw [stamp_state] at hf
    rw [stamp_completedAt, if_pos hf] at e₂
    cases e₂
    exact hs' s e₁

theorem timeInv_reset : TimeInv clock (reset t) := by simp [TimeInv, reset]

theorem TimeInv.mono (h : TimeInv clock t) (hc : clock ≤ now) : TimeInv now t :=
  ⟨fun s e => (h.1 s e).trans hc, fun c e => (h.2.1 c e).trans hc, h.2.2⟩

theorem timeInv_transition (h : TimeInv clock t) (hc : clock ≤ now) (target : State) :
    TimeInv now (transition target now t).1 := by
  rcases transition_cases target now t with ⟨-, hr⟩ | ⟨-, hr⟩ <;> rw [hr]
  exacts [timeInv_stamp h hc target, h.mono hc]

theorem timeInv_onSuccess {f : Task → Task} (hf : ∀ x, TimeInv now (f x) ↔ TimeInv now x)
    (h : TimeInv clock t) (hc : clock ≤ now) (target : State) :
    TimeInv now (onSuccess f (transition target now t)).1 := by
  rcases transition_cases target now t with ⟨-, hr⟩ | ⟨-, hr⟩ <;> simp only [hr, onSuccess]
  exacts [(hf _).2 (timeInv_stamp h hc target), h.mono hc]

theorem timeInv_run (h : TimeInv clock t) (hc : clock ≤ now) :
    ∀ op : Op, TimeInv now (op.run now t).1
  | .start _ | .complete _ | .fail _ => by
    refine timeInv_onSuccess ?_ h hc _; exact fun _ => Iff.rfl
  | .retry => by
    simp only [Op.run, retry]; split <;> exact timeInv_transition h hc _
  | .cancel | .moveToDLQ => timeInv_transition h hc _
  | .requeue => timeInv_transition timeInv_reset (le_refl now) _ |>.mono (le_refl now)

theorem countInv_stamp (h : CountInv t)
    (hp : target = .pending ∨ target = .scheduled → t.attempts ≤ t.maxRetries)
    (hr : target = .retrying → t.attempts < t.maxRetries) : CountInv (stamp target now t) := by
  obtain ⟨h0, h1, h2, -, -⟩ := h
  simpa [CountInv, h0, h1, h2] using ⟨hp, hr⟩

theorem countInv_transition (h : CountInv t)
    (hp : target = .pending ∨ target = .scheduled → t.attempts ≤ t.maxRetries)
    (hr : target = .retrying → t.attempts < t.maxRetries) :
    CountInv (transition target now t).1 := by
  rcases transition_cases target now t with ⟨-, e⟩ | ⟨-, e⟩ <;> rw [e]
  exacts [countInv_stamp h hp hr, h]

theorem countInv_onSuccess {f : Task → Task} (hf : ∀ x, CountInv (f x) ↔ CountInv x)
    (h : CountInv t) (ht : target ≠ .pending ∧ target ≠ .scheduled ∧ target ≠ .retrying) :
    CountInv (onSuccess f (transition target now t)).1 := by
  rcases transition_cases target now t with ⟨-, e⟩ | ⟨-, e⟩ <;> simp only [e, onSuccess]
  exacts [(hf _).2 (countInv_stamp h (by rintro (rfl | rfl) <;> simp at ht)
    (by rintro rfl; simp at ht)), h]

theorem State.startable_of_canTransitionTo_running {s : State}
    (h : s.canTransitionTo .running) : s = .pending ∨ s = .scheduled ∨ s = .retrying := by
  revert h; cases s <;> decide

theorem countInv_start (h : CountInv t) (w : String) : CountInv (start w now t).1 := by
  rcases transition_cases .running now t with ⟨hcan, e⟩ | ⟨-, e⟩ <;>
    simp only [start, e, onSuccess]
  · obtain ⟨hm, h0, -, hp, hr⟩ := h
    have : t.attempts + 1 ≤ t.maxRetries + 1 := by
      rcases State.startable_of_canTransitionTo_running hcan with hs | hs | hs
      · have := hp (.inl hs); omega
      · have := hp (.inr hs); omega
      · have := hr hs; omega
    simp [CountInv, Task.incrementAttempts, hm, this]
    omega
  · exact h

theorem countInv_reset (h : CountInv t) : CountInv (reset t) := by
  obtain ⟨hm, h0, -, -, hr⟩ := h
  refine ⟨hm, Int.le_refl 0, by simp [reset]; omega, fun _ => hm, fun hs => ?_⟩
  have := hr hs
  simp only [reset]; omega

theorem countInv_run (h : CountInv t) : ∀ op : Op, CountInv (op.run now t).1
  | .start w => countInv_start h w
  | .complete _ | .fail _ => by
    refine countInv_onSuccess ?_ h (by decide); exact fun _ => Iff.rfl
  | .retry => by
    simp only [Op.run, retry]
    split
    · exact countInv_transition h (by simp) (by simp)
    · rename_i hc
      exact countInv_transition h (by simp) fun _ => by simpa [Task.canRetry] using hc
  | .cancel | .moveToDLQ => countInv_transition h (by simp) (by simp)
  | .requeue => countInv_transition (countInv_reset h)
      (fun _ => (countInv_reset h).1) (by simp)

theorem result_none_of_can (h : ResultInv t) (hcan : t.state.canTransitionTo target) :
    t.result = none := by
  cases hr : t.result with
  | none => rfl
  | some _ =>
    have := State.canTransitionTo_of_terminal (.inl (h.1 (by simp [hr]))) target
    simp_all

theorem resultInv_of_result_none {x : Task} (hr : x.result = none) (hs : x.state ≠ .completed) :
    ResultInv x :=
  ⟨by simp [hr], fun h => absurd h hs⟩

theorem resultInv_transition (h : ResultInv t) (ht : target ≠ .completed) :
    ResultInv (transition target now t).1 := by
  rcases transition_cases target now t with ⟨hcan, e⟩ | ⟨-, e⟩ <;> rw [e]
  exacts [resultInv_of_result_none (by simpa using result_none_of_can h hcan) (by simpa using ht), h]

theorem resultInv_reset (h : ResultInv t) : ResultInv (reset t) :=
  ⟨h.1, fun _ => rfl⟩

theorem resultInv_run (h : ResultInv t) : ∀ op : Op, ResultInv (op.run now t).1
  | .start w => by
    rcases transition_cases .running now t with ⟨hcan, e⟩ | ⟨-, e⟩ <;>
      simp only [Op.run, start, e, onSuccess]
    · have := result_none_of_can h hcan
      exact resultInv_of_result_none (by simpa [Task.incrementAttempts]) (by simp [Task.incrementAttempts])
    · exact h
  | .complete r => by
    rcases transition_cases .completed now t with ⟨-, e⟩ | ⟨-, e⟩ <;>
      simp only [Op.run, complete, e, onSuccess]
    exacts [⟨fun _ => by simp, fun _ => rfl⟩, h]
  | .fail m => by
    rcases transition_cases .failed now t with ⟨hcan, e⟩ | ⟨-, e⟩ <;>
      simp only [Op.run, fail, e, onSuccess]
    · exact resultInv_of_result_none (by simpa using result_none_of_can h hcan) (by simp)
    · exact h
  | .retry => by
    simp only [Op.run, retry]; split <;> exact resultInv_transition h (by simp)
  | .cancel | .moveToDLQ => resultInv_transition h (by simp)
  | .requeue => resultInv_transition (resultInv_reset h) (by simp)

def CleanInv (t : Task) : Prop :=
  (t.state.isFinal → t.completedAt.isSome) ∧
    (t.state = .running ∨ t.state = .completed → 1 ≤ t.attempts)

theorem cleanInv_stamp (h : CleanInv t) (hcan : t.state.canTransitionTo target)
    (ht : target ≠ .running) : CleanInv (stamp target now t) := by
  refine ⟨fun hf => by simp [stamp_completedAt, by simpa using hf], fun hs => ?_⟩
  have htc : target = .completed := by simpa [ht] using hs
  subst htc
  have : t.state = .running := by revert hcan; cases t.state <;> decide
  simpa using h.2 (.inl this)

theorem cleanInv_transition (h : CleanInv t) (ht : target ≠ .running) :
    CleanInv (transition target now t).1 := by
  rcases transition_cases target now t with ⟨hcan, e⟩ | ⟨-, e⟩ <;> rw [e]
  exacts [cleanInv_stamp h hcan ht, h]

theorem cleanInv_onSuccess {f : Task → Task} (hf : ∀ x, CleanInv (f x) ↔ CleanInv x)
    (h : CleanInv t) (ht : target ≠ .running) :
    CleanInv (onSuccess f (transition target now t)).1 := by
  rcases transition_cases target now t with ⟨hcan, e⟩ | ⟨-, e⟩ <;> simp only [e, onSuccess]
  exacts [(hf _).2 (cleanInv_stamp h hcan ht), h]

theorem cleanInv_run (h : CleanInv t) (hc : CountInv t) :
    ∀ op : Op, (op = .requeue → (op.run now t).2 = none) → CleanInv (op.run now t).1
  | .start w, _ => by
    rcases transition_cases .running now t with ⟨-, e⟩ | ⟨-, e⟩ <;>
      simp only [Op.run, start, e, onSuccess]
    · refine ⟨by simp [Task.incrementAttempts, State.isFinal], fun _ => ?_⟩
      have := hc.2.1; simp [Task.incrementAttempts]; omega
    · exact h
  | .complete _, _ | .fail _, _ => by
    refine cleanInv_onSuccess ?_ h (by decide); exact fun _ => Iff.rfl
  | .retry, _ => by simp only [Op.run, retry]; split <;> exact cleanInv_transition h (by simp)
  | .cancel, _ | .moveToDLQ, _ => cleanInv_transition h (by simp)
  | .requeue, hq => by
    rcases transition_cases .pending now (reset t) with ⟨-, e⟩ | ⟨-, e⟩
    · simp only [Op.run, requeue, e]; exact ⟨by simp [State.isFinal], by simp⟩
    · simp [Op.run, requeue, e] at hq

theorem invs_runOps : ∀ (ops : List (Op × Nat)) (t : Task) (clock : Nat), Monotone clock ops →
    TimeInv clock t → CountInv t → ResultInv t →
    (∃ c, TimeInv c (runOps t ops)) ∧ CountInv (runOps t ops) ∧ ResultInv (runOps t ops)
  | [], _, clock, _, ht, hc, hr => ⟨⟨clock, ht⟩, hc, hr⟩
  | (op, now) :: rest, _, _, hm, ht, hc, hr =>
    have ⟨hle, hm'⟩ := List.chain_cons.1 hm
    invs_runOps rest _ now hm' (timeInv_run ht hle op) (countInv_run hc op) (resultInv_run hr op)

theorem cleanInv_runOps : ∀ (ops : List (Op × Nat)) (t : Task), RequeuesAccepted t ops →
    CountInv t → CleanInv t → CleanInv (runOps t ops)
  | [], _, _, _, h => h
  | (op, _) :: rest, _, ⟨hq, hq'⟩, hc, h =>
    cleanInv_runOps rest _ hq' (countInv_run hc op) (cleanInv_run h hc op hq)

/-- The lifecycle invariant for a task made by `New`, under calls at non-decreasing times; the
result and attempt properties need every `Requeue` to be accepted. -/
theorem lifecycle_invariant (id taskType : String) (priority : Priority) (created : Nat)
    (m : Int) (hm : 0 ≤ m) (ops : List (Op × Nat)) (hmono : Monotone created ops) :
    let t0 := { new id taskType priority created with maxRetries := m }
    let t := runOps t0 ops
    (t.state.isFinal → ∀ s c, t.startedAt = some s → t.completedAt = some c → s ≤ c) ∧
      (t.result.isSome → t.state = .completed) ∧ (t.state = .completed → t.error = "") ∧
      t.attempts ≤ t.maxRetries + 1 ∧
      (RequeuesAccepted t0 ops →
        (t.state.isFinal → t.completedAt.isSome) ∧ (t.state = .completed → 1 ≤ t.attempts)) := by
  intro t0 t
  have hc0 : CountInv t0 := ⟨hm, Int.le_refl 0, by simp [t0, new]; omega,
    fun _ => by simpa [t0, new] using hm, by simp [t0, new]⟩
  obtain ⟨⟨_, -, -, hord⟩, hc, hr⟩ :=
    invs_runOps ops t0 created hmono (by simp [TimeInv, t0, new]) hc0 (by simp [ResultInv, t0, new])
  refine ⟨hord, hr.1, hr.2, hc.2.2.1, fun hq => ?_⟩
  have := cleanInv_runOps ops t0 hq hc0 (by simp [CleanInv, t0, new, State.isFinal])
  exact ⟨this.1, fun hs => this.2 (.inr hs)⟩

theorem lifecycle_invariant_run :
    let ops := [(Op.start "w1", 1), (.complete (some "{}"), 2)]
    0 ≤ (2 : Int) ∧ Monotone 0 ops ∧
      let t := runOps { new "t1" "echo" .normal 0 with maxRetries := 2 } ops
      (t.state.isFinal → ∀ s c, t.startedAt = some s → t.completedAt = some c → s ≤ c) ∧
        (t.result.isSome → t.state = .completed) ∧ (t.state = .completed → t.error = "") ∧
        t.attempts ≤ t.maxRetries + 1 ∧
        (RequeuesAccepted { new "t1" "echo" .normal 0 with maxRetries := 2 } ops →
          (t.state.isFinal → t.completedAt.isSome) ∧ (t.state = .completed → 1 ≤ t.attempts)) :=
  ⟨by decide, by simp [Monotone],
    lifecycle_invariant "t1" "echo" .normal 0 2 (by decide) _ (by simp [Monotone])⟩

end TaskQueue.StateMachine
