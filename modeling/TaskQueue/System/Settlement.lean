import TaskQueue.System.Actor
set_option autoImplicit false

namespace TaskQueue

open Prog Redis Relation

/-! The retry budget of a task whose handler always fails, under any number of worker rounds
(`processNextTask` calls) running at once: every handler call is on the task, there are at most
`max_retries` of them, and once no round is in flight the task either waits for the next round
or is in the DLQ after exactly `max_retries` calls. -/

namespace Settlement

section Queue

variable (q : RedisQueue) (T : Task)

/-- `t` is `T` after `k` attempts, as far as a worker round reads it. -/
structure Copy (k : Nat) (t : Task) : Prop where
  id : t.id = T.id
  type : t.type = T.type
  priority : t.priority = T.priority
  maxRetries : t.maxRetries = T.maxRetries
  attempts : t.attempts = k

def Lane (s : Store) (new : List Entry) : Prop :=
  ∃ es g, s.lane (T.priority.streamName q.streamPrefix) q.consumerGroup = some (es, g) ∧
    es.filter (fun x => decide (g.lastDelivered < x.id)) = new ∧ g.lastDelivered < s.nextId ∧
    ∀ x ∈ es, x.id < s.nextId

def Others (s : Store) : Prop :=
  ∀ p, p ≠ T.priority → s.drained (p.streamName q.streamPrefix) q.consumerGroup

def Pending (s : Store) (k : Nat) : Prop :=
  ∃ t, s.records T.id = some ⟨t, none⟩ ∧ t.state = .pending ∧ Copy T k t

def InDLQ (s : Store) : Prop :=
  ∃ m ∈ s.dlq, m.taskId = T.id ∧ m.data.reason = "max retries exceeded"

/-- `T` waits with `k` attempts made: its record is pending and its stream holds one message not
yet delivered, for `T`, while every other stream is drained. -/
structure Waiting (k : Nat) (s : Store) : Prop where
  record : Pending T s k
  others : Others q T s
  next : ∃ i, Lane q T s [⟨i, ⟨T.id, T.type⟩⟩]

/-- A queue no worker has work in: the four streams exist with the group, every entry is
delivered and acknowledged, and the stream ids stay below the counter. -/
def Idle (s : Store) : Prop :=
  ∀ p : Priority, ∃ es g, s.lane (p.streamName q.streamPrefix) q.consumerGroup = some (es, g) ∧
    g.pel = [] ∧ g.lastDelivered < s.nextId ∧ ∀ e ∈ es, e.id ≤ g.lastDelivered

variable {q T} {k : Nat} {t : Task}

theorem Copy.stamp (hc : Copy T k t) (target : State) (now : Nat) :
    Copy T k (StateMachine.stamp target now t) := by
  constructor <;> simp [hc.id, hc.type, hc.priority, hc.maxRetries, hc.attempts]

theorem Copy.prepare (hc : Copy T k t) (now : Nat) :
    Copy T k (Retryer.prepareForRequeue now t) := by
  constructor <;> simp [hc.id, hc.type, hc.priority, hc.maxRetries, hc.attempts]

theorem Copy.error (hc : Copy T k t) (err : Error) : Copy T k { t with error := err } :=
  ⟨hc.id, hc.type, hc.priority, hc.maxRetries, hc.attempts⟩

variable (h : Task → Outcome) (cs : List Task)

theorem waiting_enqueue {s : Store} (hI : Idle q s) (ht : T.state = .pending)
    (ha : T.attempts = 0) :
    Waiting q T 0 ((Cmd.xadd (T.priority.streamName q.streamPrefix) ⟨T.id, T.type⟩).run
      ((Cmd.set T.id T 0).run s).2).2 := by
  have hkey : ∀ p' : Priority, p' ≠ T.priority →
      p'.streamName q.streamPrefix ≠ T.priority.streamName q.streamPrefix :=
    fun p' hp' he => hp' (Priority.streamName_injective _ he)
  refine ⟨⟨T, by simp [Cmd.run, Store.setStream], ht, ⟨rfl, rfl, rfl, rfl, by simp [ha]⟩⟩,
    fun p' hp' => ?_, ?_⟩
  · obtain ⟨es, g, hl, -, -, hle⟩ := hI p'
    exact ⟨es, g, by simp [Store.lane_xadd, hkey p' hp', hl], hle⟩
  · obtain ⟨es, g, hl, -, hlast, hle⟩ := hI T.priority
    refine ⟨s.nextId, es ++ [⟨s.nextId, ⟨T.id, T.type⟩⟩], g, by simp [Store.lane_xadd, hl], ?_,
      by simp; omega, fun x hx => ?_⟩
    · have hold : es.filter (fun x => decide (g.lastDelivered < x.id)) = [] :=
        List.filter_eq_nil_iff.2 fun x hx => by simpa using hle x hx
      simp [List.filter_append, hold, hlast]
    · rcases List.mem_append.1 hx with hx | hx
      · have := hle x hx; simp; omega
      · simp [List.mem_singleton.1 hx]

theorem run_create_idle {s : Store} (hI : Idle q s) (maxQueueSize : Int) (id : String)
    (req : CreateTaskRequest) (htype : req.type ≠ "") (hnow : req.scheduledAt = none) :
    let t := fromRequest id s.clock req
    run h (TaskHandler.create ⟨q, maxQueueSize⟩ id req) ⟨s, [], cs⟩ =
      (.task 201 t, ⟨((Cmd.xadd (t.priority.streamName q.streamPrefix) ⟨t.id, t.type⟩).run
        ((Cmd.set t.id t 0).run s).2).2, [], cs⟩) := by
  simp only [TaskHandler.create, bind_eq, pure_eq, if_neg htype, ret_bind, hnow]
  have hg : ∀ p : Priority, (s.group (p.streamName q.streamPrefix) q.consumerGroup).map
      (fun x => (p, x.2.pel.length)) = some (p, 0) := fun p => by
    obtain ⟨es, g, hl, hpel, -⟩ := hI p
    obtain ⟨st, hgp, rfl⟩ := Store.lane_eq_some.1 hl
    simp [hgp, hpel]
  have hsum : ((RedisQueue.priorities.filterMap fun p =>
      (s.group (p.streamName q.streamPrefix) q.consumerGroup).map fun x => (p, x.2.pel.length)).map
        fun x : Priority × Nat => (x.2 : Int)).sum = 0 := by
    simp [RedisQueue.priorities, hg]
  split_ifs with hmax
  · rw [run_bind, RedisQueue.getQueueDepth, RedisQueue.run_getQueueDepth_go]
    simp only [hsum, ge_iff_le, if_neg (show ¬maxQueueSize ≤ 0 by omega), run_timeNow_bind]
    rw [run_bind, RedisQueue.run_enqueue]
    rfl
  · simp only [run_timeNow_bind]
    rw [run_bind, RedisQueue.run_enqueue]
    rfl

theorem initialStore_idle (cfg : Config) : Idle cfg.queue cfg.initialStore := by
  obtain ⟨streams, he⟩ := cfg.initialStore_eq
  intro p
  refine ⟨[], ⟨0, []⟩, cfg.initialStore_lane p, rfl, ?_, by simp⟩
  rw [he]
  exact Nat.one_pos

end Queue

section Round

variable {T} (h : Task → Outcome) (p : Pool) (cs : List Task)

theorem start_pending {t : Task} {k : Nat} (ht : t.state = .pending) (hc : Copy T k t)
    (w : String) (now : Nat) :
    ∃ t₁, StateMachine.start w now t = (t₁, none) ∧ t₁.state = .running ∧ Copy T (k + 1) t₁ := by
  have hcan : t.state.canTransitionTo .running := by
    simp [ht, State.canTransitionTo, State.validTransitions]
  refine ⟨_, by rw [StateMachine.start, StateMachine.transition_of_can hcan]; rfl,
    by simp [Task.incrementAttempts], ?_⟩
  constructor <;>
    simp [Task.incrementAttempts, hc.id, hc.type, hc.priority, hc.maxRetries, hc.attempts]

theorem run_processNextTask_round {k : Nat} {s : Store} (hW : Waiting p.queue T k s)
    (htype : T.type ∈ p.handlers) (hfail : ∀ t r, h t ≠ .ok r) :
    ∃ t₁ s', Copy T (k + 1) t₁ ∧
      run h p.processNextTask ⟨s, [], cs⟩ = (none, ⟨s', [], cs ++ [t₁]⟩) := by
  obtain ⟨t, hrec, hpend, hcopy⟩ := hW.record
  obtain ⟨i, es, g, hl, hfilt, -, -⟩ := hW.next
  obtain ⟨st, hg, rfl⟩ := Store.lane_eq_some.1 hl
  have hdeq := RedisQueue.run_dequeueBlocking_single h s cs p.queue p.id hg hfilt hW.others
    (t := t) (by simp [Store.getTask, hrec])
  obtain ⟨t₁, hstart, hrun, hcopy₁⟩ := start_pending hpend hcopy p.id s.clock
  obtain ⟨e, hexec⟩ :=
    Executor.run_execute_error h _ cs p.handlers t₁ (hcopy₁.type ▸ htype) (hfail t₁)
  let s₁ := ((Cmd.set t₁.id t₁ 0).run (s.setGroup (T.priority.streamName p.queue.streamPrefix)
    p.queue.consumerGroup st ⟨i, g.pel ++ [⟨i, p.id, s.clock⟩]⟩)).2
  have hround : run h p.processNextTask ⟨s, [], cs⟩ =
      (none, (run h (p.handleTaskFailure t₁ i e) ⟨s₁, [], cs ++ [t₁]⟩).2) := by
    have httl : (if t₁.state.isFinal = true ∧ p.queue.taskRetentionDays > 0 then
        p.queue.taskRetentionDays.toNat * 24 * RedisQueue.hour else 0) = 0 := by
      simp [hrun, State.isFinal]
    simp only [Pool.processNextTask, bind_eq]
    rw [run_bind, hdeq]
    simp only [Pool.processTask, bind_eq, run_timeNow_bind, Store.clock_setGroup, hstart]
    rw [run_bind, RedisQueue.run_updateTask, run_bind, hexec, run_bind, httl]
    rfl
  have hhandled : ∃ s', run h (p.handleTaskFailure t₁ i e) ⟨s₁, [], cs ++ [t₁]⟩ =
      ((), ⟨s', [], cs ++ [t₁]⟩) := by
    cases hc : t₁.canRetry
    · obtain ⟨ttl, hdead⟩ := Pool.run_handleTaskFailure_dead h _ _ p t₁ i e hrun hc
      exact ⟨_, hdead⟩
    · exact ⟨_, Pool.run_handleTaskFailure_retry h _ _ p t₁ i e hrun hc⟩
  obtain ⟨s', hs'⟩ := hhandled
  exact ⟨t₁, s', hcopy₁, by rw [hround, hs']⟩

end Round

section Runs

variable (cfg : Config)

/-- A step of a run with no crash, no reclaim, no store failure and no manual intervention, in
which the handler never succeeds: a worker round starts under any consumer name, any round in
flight takes its next effect, or time passes. -/
inductive Round : Sys Call → Sys Call → Prop
  | start (s : Sys Call) (w : String) :
      Round s { s with
        running := s.running ++ [Call.prog cfg (.processNextTask w)]
        calls := s.calls ++ [.processNextTask w] }
  | finish (s : Sys Call) (i : Nat) (h : s.running[i]? = some (.ret ())) :
      Round s { s with running := s.running.eraseIdx i }
  | redis (s : Sys Call) (i : Nat) {β : Type} (c : Cmd β) (k : Except Error β → Prog Unit)
      (h : s.running[i]? = some (.redis c k)) :
      Round s
        { s with store := (c.run s.store).2, running := s.running.set i (k (c.run s.store).1) }
  | time (s : Sys Call) (i : Nat) (k : Nat → Prog Unit) (h : s.running[i]? = some (.time k)) :
      Round s { s with running := s.running.set i (k s.store.clock) }
  | handler (s : Sys Call) (i : Nat) (t : Task) (k : Outcome → Prog Unit) (o : Outcome)
      (ho : ∀ r, o ≠ .ok r) (h : s.running[i]? = some (.handler t k)) :
      Round s { s with running := s.running.set i (k o), executed := s.executed ++ [t] }
  | tick (s : Sys Call) (n : Nat) :
      Round s { s with store := { s.store with clock := s.store.clock + n } }

variable {cfg}

theorem Round.step {s s' : Sys Call} (h : Round cfg s s') : Step (Call.prog cfg) s s' := by
  cases h with
  | start w => exact .start s _
  | finish i h => exact .finish s i h
  | redis i c k h => exact .redis s i c k h
  | time i k h => exact .time s i k h
  | handler i t k o _ h => exact .handler s i t k o h
  | tick n => exact .tick s n

/-- A procedure in flight alone, its handler calls answered by `h`, runs as it runs sequentially
against the store. -/
theorem Round.run_alone {h : Task → Outcome} (hok : ∀ t r, h t ≠ .ok r) :
    ∀ (p : Prog Unit) (s : Sys Call), s.running = [p] →
      ReflTransGen (Round cfg) s ⟨(run h p ⟨s.store, [], s.executed⟩).2.store, [], s.calls,
        (run h p ⟨s.store, [], s.executed⟩).2.calls⟩ := by
  intro p
  induction p with
  | ret a => rintro ⟨store, _, calls, executed⟩ rfl; exact .single (Round.finish _ 0 rfl)
  | redis c k ih =>
    rintro ⟨store, _, calls, executed⟩ rfl
    exact .head (Round.redis _ 0 c k rfl) (ih _ _ rfl)
  | time k ih =>
    rintro ⟨store, _, calls, executed⟩ rfl
    exact .head (Round.time _ 0 k rfl) (ih _ _ rfl)
  | handler t k ih =>
    rintro ⟨store, _, calls, executed⟩ rfl
    exact .head (Round.handler _ 0 t k (h t) (hok t) rfl) (ih _ _ rfl)

end Runs

section Points

variable (cfg : Config)

def afterDequeue (w : String) : Except Error (Option (Task × Nat)) → Prog (Option Error)
  | .error e => return some ("failed to dequeue: " ++ e)
  | .ok none => return none
  | .ok (some (t, messageID)) => (cfg.pool w).processTask t messageID

def afterExecute (w : String) (t : Task) (messageID : Nat) :
    Except Error (Option String) → Prog (Option Error)
  | .error execErr => do
    (cfg.pool w).handleTaskFailure t messageID execErr
    return none
  | .ok result => (cfg.pool w).handleTaskSuccess t messageID result

def ackRest (t : Task) (messageID : Nat) (_ : Option Error) : Prog Unit := do
  let _ ← cfg.queue.acknowledge t messageID

def failureRest (x : Prog Unit) : Prog Unit := discard (do x; return (none : Option Error))

def recordTtl (t : Task) : Nat :=
  if t.state.isFinal ∧ cfg.queue.taskRetentionDays > 0 then
    cfg.queue.taskRetentionDays.toNat * 24 * RedisQueue.hour else 0

/-- Where a worker round stands in `processNextTask`, under consumer name `w`, with what it has
read so far: the stream key and entry it was delivered, the task, the message id. -/
inductive Point
  | read (w : String)
  | fetch (w key : String) (e : Entry)
  | unread (w key : String) (e : Entry)
  | start (w : String) (t : Task) (i : Nat)
  | persist (w : String) (t : Task) (i : Nat)
  | execute (w : String) (t : Task) (i : Nat)
  | failed (w : String) (t : Task) (i : Nat) (e : Error)
  | retry (w : String) (t : Task) (i : Nat)
  | requeueClock (w : String) (t : Task) (i : Nat)
  | requeue (w : String) (t : Task) (i : Nat)
  | append (w : String) (t : Task) (i : Nat)
  | unstore (w : String) (t : Task) (i : Nat) (e : Error)
  | ack (w : String) (t : Task) (i : Nat)
  | dead (w : String) (t : Task) (i : Nat)
  | dlqClock (w : String) (t : Task) (i : Nat)
  | dlqAdd (w : String) (t : Task) (i now : Nat)
  | sadd (w : String) (t : Task) (i now : Nat)
  | complete (w : String) (t : Task) (i : Nat) (result : Option String)
  | completeSet (w : String) (t : Task) (i : Nat)
  | completeAck (w : String) (t : Task) (i : Nat)
  | done

/-- The rest of the worker round from the point on. -/
def Point.prog : Point → Prog Unit
  | .read w => discard (cfg.pool w).processNextTask
  | .fetch w key e => discard (((RedisQueue.getTask e.msg.taskId).bind fun
      | .error _ => do
        let _ ← exec (.xack key cfg.queue.consumerGroup e.id)
        return .ok none
      | .ok t => return .ok (some (t, e.id))).bind (afterDequeue cfg w))
  | .unread w key e => discard (((exec (.xack key cfg.queue.consumerGroup e.id)).bind fun _ =>
      return .ok none).bind (afterDequeue cfg w))
  | .start w t i => discard ((cfg.pool w).processTask t i)
  | .persist w t i => discard ((cfg.queue.updateTask t).bind fun _ =>
      (Executor.execute cfg.handlers t).bind (afterExecute cfg w t i))
  | .execute w t i => discard ((Executor.execute cfg.handlers t).bind (afterExecute cfg w t i))
  | .failed w t i e => failureRest ((cfg.pool w).handleTaskFailure t i e)
  | .retry _ t i => failureRest do
      let _ ← cfg.queue.updateTask t
      let now ← timeNow
      let t := Retryer.prepareForRequeue now t
      let _ ← cfg.queue.enqueue t
      let _ ← cfg.queue.acknowledge t i
  | .requeueClock _ t i => failureRest do
      let now ← timeNow
      let t := Retryer.prepareForRequeue now t
      let _ ← cfg.queue.enqueue t
      let _ ← cfg.queue.acknowledge t i
  | .requeue _ t i => failureRest ((cfg.queue.enqueue t).bind (ackRest cfg t i))
  | .append _ t i => failureRest (((do
      match ← exec (.xadd (t.priority.streamName cfg.queue.streamPrefix) ⟨t.id, t.type⟩) with
      | .error e =>
        let _ ← exec (.del t.id)
        return some ("failed to add task to stream: " ++ e)
      | .ok _ => return none) : Prog (Option Error)).bind (ackRest cfg t i))
  | .unstore _ t i e => failureRest (((exec (.del t.id)).bind fun _ =>
      return some ("failed to add task to stream: " ++ e)).bind (ackRest cfg t i))
  | .ack _ t i => failureRest (ackRest cfg t i none)
  | .dead _ t i => failureRest do
      let _ ← cfg.queue.updateTask t
      let _ ← DLQ.add t "max retries exceeded"
      let _ ← cfg.queue.acknowledge t i
  | .dlqClock _ t i => failureRest ((DLQ.add t "max retries exceeded").bind (ackRest cfg t i))
  | .dlqAdd _ t i now => failureRest (((do
      let d := DLQ.forceDeadLetter now t
      match ← exec (.dlqAdd d.id d.type ⟨d, "max retries exceeded", now, d.error⟩) with
      | .error e => return some ("failed to add to DLQ stream: " ++ e)
      | .ok _ =>
        let _ ← exec (.sadd d.id)
        return none) : Prog (Option Error)).bind (ackRest cfg t i))
  | .sadd _ t i now => failureRest (((exec (.sadd (DLQ.forceDeadLetter now t).id)).bind fun _ =>
      return none).bind (ackRest cfg t i))
  | .complete w t i result => discard ((cfg.pool w).handleTaskSuccess t i result)
  | .completeSet _ t i => discard (((cfg.queue.updateTask t).bind fun
      | some e => return some ("failed to update task: " ++ e)
      | none => do
        match ← cfg.queue.acknowledge t i with
        | some e => return some ("failed to acknowledge: " ++ e)
        | none => return none) : Prog (Option Error))
  | .completeAck _ t i => discard (((cfg.queue.acknowledge t i).bind fun
      | some e => return some ("failed to acknowledge: " ++ e)
      | none => return none) : Prog (Option Error))
  | .done => .ret ()

def failedMove (w : String) (t : Task) (i : Nat) (e : Error) : Move Point :=
  .time fun now =>
    if t.canRetry then .retry w { (StateMachine.retry now t).1 with error := e } i
    else .dead w (StateMachine.fail e now t).1 i

def Point.move : Point → Move Point
  | .read w => .cmd (.xreadgroup cfg.queue.consumerGroup w
      (RedisQueue.priorities.map (·.streamName cfg.queue.streamPrefix)) 1) fun
    | .ok ((key, e :: _) :: _) => .fetch w key e
    | _ => .done
  | .fetch w key e => .cmd (.get e.msg.taskId) fun
    | .ok (some t) => .start w t e.id
    | _ => .unread w key e
  | .unread _ key e => .cmd (.xack key cfg.queue.consumerGroup e.id) fun _ => .done
  | .start w t i => .time fun now =>
    match StateMachine.start w now t with
    | (t, none) => .persist w t i
    | (_, some _) => .done
  | .persist w t i => .cmd (.set t.id t (recordTtl cfg t)) fun _ => .execute w t i
  | .execute w t i =>
    if t.type ∈ cfg.handlers then .call t fun
      | .ok result => .complete w t i result
      | .err e => .failed w t i e
      | .deadlineExceeded => .failed w t i errTaskTimeout
      | .canceled => .failed w t i errTaskCanceled
      | .panic v => .failed w t i ("handler panicked: " ++ v)
    else failedMove w t i errHandlerNotFound
  | .failed w t i e => failedMove w t i e
  | .retry w t i => .cmd (.set t.id t (recordTtl cfg t)) fun _ => .requeueClock w t i
  | .requeueClock w t i => .time fun now => .requeue w (Retryer.prepareForRequeue now t) i
  | .requeue w t i => .cmd (.set t.id t 0) fun
    | .ok () => .append w t i
    | .error _ => .ack w t i
  | .append w t i => .cmd (.xadd (t.priority.streamName cfg.queue.streamPrefix) ⟨t.id, t.type⟩) fun
    | .ok _ => .ack w t i
    | .error e => .unstore w t i e
  | .unstore w t i _ => .cmd (.del t.id) fun _ => .ack w t i
  | .ack _ t i =>
    .cmd (.xack (t.priority.streamName cfg.queue.streamPrefix) cfg.queue.consumerGroup i)
      fun _ => .done
  | .dead w t i => .cmd (.set t.id t (recordTtl cfg t)) fun _ => .dlqClock w t i
  | .dlqClock w t i => .time fun now => .dlqAdd w t i now
  | .dlqAdd w t i now =>
    let d := DLQ.forceDeadLetter now t
    .cmd (.dlqAdd d.id d.type ⟨d, "max retries exceeded", now, d.error⟩) fun
    | .ok _ => .sadd w t i now
    | .error _ => .ack w t i
  | .sadd w t i now => .cmd (.sadd (DLQ.forceDeadLetter now t).id) fun _ => .ack w t i
  | .complete w t i result => .time fun now =>
    match StateMachine.complete result now t with
    | (t, none) => .completeSet w t i
    | (_, some _) => .done
  | .completeSet w t i => .cmd (.set t.id t (recordTtl cfg t)) fun
    | .ok () => .completeAck w t i
    | .error _ => .done
  | .completeAck _ t i =>
    .cmd (.xack (t.priority.streamName cfg.queue.streamPrefix) cfg.queue.consumerGroup i)
      fun _ => .done
  | .done => .stop

theorem failedMove_prog (w : String) (t : Task) (i : Nat) (e : Error) :
    (Point.failed w t i e).prog cfg = (failedMove w t i e).prog (Point.prog cfg) := by
  refine congrArg Prog.time (funext fun now => ?_)
  cases h : t.canRetry <;> simp only [Pool.handleTaskFailure, h] <;> rfl

theorem Point.prog_eq (a : Point) : a.prog cfg = (a.move cfg).prog (Point.prog cfg) := by
  cases a with
  | read w =>
    refine congrArg (Prog.redis _) (funext fun r => ?_)
    rcases r with _ | _ | ⟨⟨key, _ | ⟨e, _⟩⟩, _⟩ <;> rfl
  | fetch w key e =>
    refine congrArg (Prog.redis _) (funext fun r => ?_)
    rcases r with _ | _ | _ <;> rfl
  | start w t i =>
    refine congrArg Prog.time (funext fun now => ?_)
    simp only [ret_bind, Config.pool]
    rcases StateMachine.start w now t with ⟨t', _ | e⟩ <;> rfl
  | execute w t i =>
    by_cases ht : t.type ∈ cfg.handlers
    · simp only [Point.prog, Point.move, Executor.execute, if_pos ht]
      refine congrArg (Prog.handler _) (funext fun o => ?_)
      cases o <;> rfl
    · have hp : (Point.execute w t i).prog cfg =
          (Point.failed w t i errHandlerNotFound).prog cfg := by
        simp only [Point.prog, Executor.execute, if_neg ht]; rfl
      simp only [Point.move, if_neg ht]
      exact hp.trans (failedMove_prog cfg w t i errHandlerNotFound)
  | failed w t i e => exact failedMove_prog cfg w t i e
  | complete w t i result =>
    refine congrArg Prog.time (funext fun now => ?_)
    simp only [ret_bind]
    rcases StateMachine.complete result now t with ⟨t', _ | e⟩ <;> rfl
  | unread | persist | retry | requeue | append | unstore | ack | dead | dlqAdd | sadd
    | completeSet | completeAck =>
    refine congrArg (Prog.redis _) (funext fun r => ?_)
    rcases r with _ | _ <;> rfl
  | requeueClock | dlqClock | done => rfl

end Points

section Inv

variable (q : RedisQueue) (T : Task)

namespace Point

def free : Point → Bool
  | .read _ | .ack _ _ _ | .done => true
  | _ => false

/-- What the round holding `T`'s delivery knows when `k` handler calls have been made. No round
reaches a point after a missing record, a failed append or a handler success. -/
def Holds (s : Store) (k : Nat) : Point → Prop
  | .fetch _ key e => (k : Int) < T.maxRetries ∧ key = T.priority.streamName q.streamPrefix ∧
      e.msg = ⟨T.id, T.type⟩ ∧ Pending T s k
  | .start _ t _ | .requeue _ t _ => (k : Int) < T.maxRetries ∧ t.state = .pending ∧ Copy T k t
  | .persist _ t _ | .execute _ t _ =>
      (k : Int) < T.maxRetries ∧ t.state = .running ∧ Copy T (k + 1) t
  | .failed _ t _ _ => (k : Int) ≤ T.maxRetries ∧ t.state = .running ∧ Copy T k t
  | .retry _ t _ | .requeueClock _ t _ => (k : Int) < T.maxRetries ∧ Copy T k t
  | .append _ t _ => (k : Int) < T.maxRetries ∧ s.records T.id = some ⟨t, none⟩ ∧
      t.state = .pending ∧ Copy T k t
  | .dead _ t _ | .dlqClock _ t _ | .dlqAdd _ t _ _ => (k : Int) = T.maxRetries ∧ Copy T k t
  | .sadd _ t _ _ => (k : Int) = T.maxRetries ∧ Copy T k t ∧ InDLQ T s
  | _ => False

end Point

def Queued (s : Store) (k : Nat) : Prop :=
  (k : Int) < T.maxRetries ∧ Pending T s k ∧ ∃ i, Lane q T s [⟨i, ⟨T.id, T.type⟩⟩]

def Dead (s : Store) (k : Nat) : Prop :=
  (k : Int) = T.maxRetries ∧ Lane q T s [] ∧ T.id ∈ s.dlqSet ∧ InDLQ T s

/-- The rounds in flight and the store after `k` handler calls: `T`'s one delivery is held by
exactly one round, which knows where it stands, or waits in the stream, or `T` is in the DLQ. -/
structure Inv (s : Store) (as : List Point) (k : Nat) : Prop where
  others : Others q T s
  single : Unique (fun a : Point => a.free = false) as
  holds : ∀ a ∈ as, a.free = false → a.Holds q T s k
  token : ((∃ a ∈ as, a.free = false) ∧ Lane q T s []) ∨
    ((∀ a ∈ as, a.free = true) ∧ (Queued q T s k ∨ Dead q T s k))

structure Same (s s' : Store) : Prop where
  records : s'.records T.id = s.records T.id
  dlq : s'.dlq = s.dlq
  dlqSet : s'.dlqSet = s.dlqSet
  nextId : s'.nextId = s.nextId
  view : ∀ key, (s'.lane key q.consumerGroup).map (fun x => (x.1, x.2.lastDelivered)) =
    (s.lane key q.consumerGroup).map fun x => (x.1, x.2.lastDelivered)

variable {q T} {s s' : Store} {as : List Point} {k i : Nat} {a a' : Point}

section Store

theorem Lane.drained (h : Lane q T s []) :
    s.drained (T.priority.streamName q.streamPrefix) q.consumerGroup := by
  obtain ⟨es, g, hl, hf, -, -⟩ := h
  exact ⟨es, g, hl, fun x hx => Nat.not_lt.1 fun hlt =>
    List.not_mem_nil x (hf ▸ List.mem_filter.2 ⟨hx, decide_eq_true hlt⟩)⟩

theorem Lane.of_lane {new : List Entry} (h : Lane q T s new)
    (hl : s'.lane (T.priority.streamName q.streamPrefix) q.consumerGroup =
      s.lane (T.priority.streamName q.streamPrefix) q.consumerGroup) (hn : s.nextId ≤ s'.nextId) :
    Lane q T s' new := by
  obtain ⟨es, g, hl', hf, hd, hlt⟩ := h
  exact ⟨es, g, hl.trans hl', hf, by omega, fun x hx => by have := hlt x hx; omega⟩

theorem Others.of_lane (h : Others q T s)
    (hl : ∀ key, s'.lane key q.consumerGroup = s.lane key q.consumerGroup) : Others q T s' :=
  fun p hp => Store.drained_of_lane_eq (hl _) (h p hp)

theorem Same.view_some (hs : Same q T s s') {key : String} {es : List Entry} {g : Group}
    (hl : s.lane key q.consumerGroup = some (es, g)) :
    ∃ g', s'.lane key q.consumerGroup = some (es, g') ∧ g'.lastDelivered = g.lastDelivered := by
  have hv := hs.view key
  rw [hl, Option.map_some', Option.map_eq_some'] at hv
  obtain ⟨⟨es', g'⟩, hl', he⟩ := hv
  simp only [Prod.mk.injEq] at he
  obtain ⟨rfl, hg⟩ := he
  exact ⟨g', hl', hg⟩

theorem Same.lane {new : List Entry} (hs : Same q T s s') (h : Lane q T s new) :
    Lane q T s' new := by
  obtain ⟨es, g, hl, hf, hd, hlt⟩ := h
  obtain ⟨g', hl', hg⟩ := hs.view_some hl
  exact ⟨es, g', hl', by rw [hg]; exact hf, by rw [hg, hs.nextId]; exact hd,
    by rw [hs.nextId]; exact hlt⟩

theorem Inv.same (h : Inv q T s as k) (hs : Same q T s s') : Inv q T s' as k := by
  have hp : Pending T s k → Pending T s' k := fun ⟨t, hr, ht⟩ => ⟨t, hs.records.trans hr, ht⟩
  have hd : InDLQ T s → InDLQ T s' := fun ⟨m, hm, hr⟩ => ⟨m, hs.dlq ▸ hm, hr⟩
  refine ⟨fun p hp => ?_, h.single, fun b hb hbf => ?_, ?_⟩
  · obtain ⟨es, g, hl, hle⟩ := h.others p hp
    obtain ⟨g', hl', hg⟩ := hs.view_some hl
    exact ⟨es, g', hl', hg ▸ hle⟩
  · have hh := h.holds b hb hbf
    cases b <;> simp only [Point.Holds, hs.records] at hh ⊢
    all_goals first | exact hh | exact ⟨hh.1, hh.2.1, hh.2.2.1, hp hh.2.2.2⟩ |
      exact ⟨hh.1, hh.2.1, hd hh.2.2⟩
  · rcases h.token with ⟨hb, hl⟩ | ⟨hall, ⟨hk, hr, j, hl⟩ | ⟨hk, hl, hset, hdlq⟩⟩
    · exact .inl ⟨hb, hs.lane hl⟩
    · exact .inr ⟨hall, .inl ⟨hk, hp hr, j, hs.lane hl⟩⟩
    · exact .inr ⟨hall, .inr ⟨hk, hs.lane hl, hs.dlqSet ▸ hset, hd hdlq⟩⟩

theorem same_xack (key : String) (j : Nat) :
    Same q T s ((Cmd.xack key q.consumerGroup j).run s).2 := by
  refine ⟨?_, Store.dlq_xack j, Store.dlqSet_xack j, Store.nextId_xack j, fun key' => ?_⟩
  · simp only [Cmd.run]; split <;> rfl
  by_cases he : key' = key
  · subst he
    simp [Store.lane_xack_self, Option.map_map, Function.comp_def]
  · rw [Store.lane_xack_of_ne he]

theorem same_tick (n : Nat) : Same q T s { s with clock := s.clock + n } :=
  ⟨rfl, rfl, rfl, rfl, fun _ => rfl⟩

end Store

section Points

theorem mem_set_self (hi : as[i]? = some a) (a' : Point) : a' ∈ as.set i a' :=
  List.getElem?_mem (List.getElem?_set_self (List.getElem?_eq_some_iff.1 hi).1)

theorem Inv.holds_at (h : Inv q T s as k) (hi : as[i]? = some a) (ha : a.free = false) :
    a.Holds q T s k :=
  h.holds a (List.getElem?_mem hi) ha

theorem Inv.free_of_ne (h : Inv q T s as k) (hi : as[i]? = some a) (ha : a.free = false)
    {j : Nat} {b : Point} (hji : j ≠ i) (hj : as[j]? = some b) : b.free = true := by
  by_contra hb
  exact hji (h.single _ _ _ _ hj hi (by simpa using hb) ha)

theorem Inv.lane_of_holder (h : Inv q T s as k) (hi : as[i]? = some a) (ha : a.free = false) :
    Lane q T s [] := by
  rcases h.token with ⟨-, hl⟩ | ⟨hall, -⟩
  · exact hl
  · simp [hall a (List.getElem?_mem hi)] at ha

theorem Inv.le (h : Inv q T s as k) : (k : Int) ≤ T.maxRetries := by
  rcases h.token with ⟨⟨a, ha, haf⟩, -⟩ | ⟨-, ⟨hk, -⟩ | ⟨hk, -⟩⟩
  · have hh := h.holds a ha haf
    cases a <;> simp only [Point.Holds] at hh
    all_goals first | exact hh.elim | exact hh.1 | exact hh.1.le
  · exact hk.le
  · exact hk.le

theorem inv_set (hi : as[i]? = some a) (hfree : ∀ j b, j ≠ i → as[j]? = some b → b.free = true)
    {k' : Nat} (ho : Others q T s')
    (hnext : (a'.free = false ∧ a'.Holds q T s' k' ∧ Lane q T s' []) ∨
      (a'.free = true ∧ (Queued q T s' k' ∨ Dead q T s' k'))) :
    Inv q T s' (as.set i a') k' := by
  have hrest : ∀ b ∈ as.set i a', b = a' ∨ b.free = true := fun b hb =>
    (mem_set_cases hb).imp id fun ⟨j, hji, hj⟩ => hfree j b hji hj
  have hidx : ∀ j b, (as.set i a')[j]? = some b → b.free = false → j = i := fun j b hj hbf => by
    rcases getElem?_set_some hj with ⟨rfl, -⟩ | ⟨hji, hj'⟩
    · rfl
    · simp [hfree j b hji hj'] at hbf
  refine ⟨ho, fun j j' _ _ hj hj' hb hb' => (hidx _ _ hj hb).trans (hidx _ _ hj' hb').symm,
    fun b hb hbf => ?_, ?_⟩
  · rcases hrest b hb with rfl | hb'
    · rcases hnext with ⟨-, hh, -⟩ | ⟨hf, -⟩
      · exact hh
      · simp [hf] at hbf
    · simp [hb'] at hbf
  · rcases hnext with ⟨hf, -, hl⟩ | ⟨hf, hp⟩
    · exact .inl ⟨⟨a', mem_set_self hi a', hf⟩, hl⟩
    · exact .inr ⟨fun b hb => (hrest b hb).elim (fun e => e ▸ hf) id, hp⟩

theorem Inv.holder_keep (h : Inv q T s as k) (hi : as[i]? = some a) (ha : a.free = false)
    {k' : Nat} (hl : ∀ key, s'.lane key q.consumerGroup = s.lane key q.consumerGroup)
    (hn : s.nextId ≤ s'.nextId) (ha' : a'.free = false) (hh : a'.Holds q T s' k') :
    Inv q T s' (as.set i a') k' :=
  inv_set hi (fun _ _ hji hj => h.free_of_ne hi ha hji hj) (h.others.of_lane hl)
    (.inl ⟨ha', hh, (h.lane_of_holder hi ha).of_lane (hl _) hn⟩)

theorem Inv.free (h : Inv q T s as k) (hi : as[i]? = some a) (ha : a.free = true)
    (ha' : a'.free = true) : Inv q T s (as.set i a') k := by
  have hmem : ∀ b ∈ as.set i a', b = a' ∨ b ∈ as := fun b hb =>
    (mem_set_cases hb).imp id fun ⟨_, _, hj⟩ => List.getElem?_mem hj
  refine ⟨h.others, h.single.set (fun hf => by simp [ha'] at hf), fun b hb hbf => ?_, ?_⟩
  · rcases hmem b hb with rfl | hb
    · simp [ha'] at hbf
    · exact h.holds b hb hbf
  · rcases h.token with ⟨⟨b, hb, hbf⟩, hl⟩ | ⟨hall, hp⟩
    · obtain ⟨j, hj⟩ := List.mem_iff_getElem?.1 hb
      have hij : i ≠ j := by
        rintro rfl
        rw [hi, Option.some.injEq] at hj
        subst hj
        simp [ha] at hbf
      exact .inl ⟨⟨b, List.mem_iff_getElem?.2 ⟨j, (List.getElem?_set_ne hij).trans hj⟩, hbf⟩, hl⟩
    · exact .inr ⟨fun b hb => (hmem b hb).elim (fun e => e ▸ ha') (hall b), hp⟩

theorem Inv.eraseIdx (h : Inv q T s as k) (hi : as[i]? = some a) (ha : a.free = true) :
    Inv q T s (as.eraseIdx i) k := by
  refine ⟨h.others, h.single.eraseIdx i,
    fun b hb hbf => h.holds b (List.mem_of_mem_eraseIdx hb) hbf, ?_⟩
  rcases h.token with ⟨⟨b, hb, hbf⟩, hl⟩ | ⟨hall, hp⟩
  · obtain ⟨j, hj⟩ := List.mem_iff_getElem?.1 hb
    have hji : j ≠ i := by
      rintro rfl
      rw [hi, Option.some.injEq] at hj
      subst hj
      simp [ha] at hbf
    exact .inl ⟨⟨b, List.mem_eraseIdx_iff_getElem?.2 ⟨j, hji, hj⟩, hbf⟩, hl⟩
  · exact .inr ⟨fun b hb => hall b (List.mem_of_mem_eraseIdx hb), hp⟩

theorem Inv.concat (h : Inv q T s as k) (ha : a.free = true) : Inv q T s (as ++ [a]) k := by
  refine ⟨h.others, h.single.append (fun hf => by simp [ha] at hf), fun b hb hbf => ?_, ?_⟩
  · rcases List.mem_append.1 hb with hb | hb
    · exact h.holds b hb hbf
    · rw [List.mem_singleton.1 hb, ha] at hbf; cases hbf
  · rcases h.token with ⟨⟨b, hb, hbf⟩, hl⟩ | ⟨hall, hp⟩
    · exact .inl ⟨⟨b, List.mem_append_left _ hb, hbf⟩, hl⟩
    · refine .inr ⟨fun b hb => ?_, hp⟩
      rcases List.mem_append.1 hb with hb | hb
      · exact hall b hb
      · exact List.mem_singleton.1 hb ▸ ha

end Points

section Steps

variable {w key : String} {e : Entry} {t : Task} {j now : Nat} {err : Error}

theorem Inv.read (h : Inv q T s as k) (hi : as[i]? = some (.read w)) :
    (∃ e s', (Cmd.xreadgroup q.consumerGroup w
        (RedisQueue.priorities.map (·.streamName q.streamPrefix)) 1).run s =
        (.ok [(T.priority.streamName q.streamPrefix, [e])], s') ∧
        Inv q T s' (as.set i (.fetch w (T.priority.streamName q.streamPrefix) e)) k) ∨
      ((Cmd.xreadgroup q.consumerGroup w
        (RedisQueue.priorities.map (·.streamName q.streamPrefix)) 1).run s = (.ok [], s) ∧
        Inv q T s (as.set i .done) k) := by
  have hkeys : ∀ key ∈ RedisQueue.priorities.map (·.streamName q.streamPrefix),
      key ≠ T.priority.streamName q.streamPrefix → s.drained key q.consumerGroup := by
    simp only [List.mem_map]
    rintro _ ⟨p, -, rfl⟩ hne
    exact h.others p fun hp => hne (hp ▸ rfl)
  have hnone : Lane q T s [] → (Cmd.xreadgroup q.consumerGroup w
      (RedisQueue.priorities.map (·.streamName q.streamPrefix)) 1).run s = (.ok [], s) :=
    fun hl => readGroup_drained fun key hk => by
      by_cases hkey : key = T.priority.streamName q.streamPrefix
      · exact hkey ▸ hl.drained
      · exact hkeys key hk hkey
  rcases h.token with ⟨-, hl⟩ | ⟨hall, ⟨hk, hp, j, hl⟩ | ⟨-, hl, -⟩⟩
  · exact .inr ⟨hnone hl, h.free hi rfl rfl⟩
  · obtain ⟨es, g, hlane, hf, -, hlt⟩ := hl
    obtain ⟨st, hg, rfl⟩ := Store.lane_eq_some.1 hlane
    obtain ⟨-, hmem, hle⟩ := filter_eq_single hf
    refine .inl ⟨_, _, readGroup_single hg hf (RedisQueue.priorities_streamName_nodup _)
      (List.mem_map_of_mem _ (RedisQueue.priorities_complete _)) hkeys,
      inv_set hi (fun _ b _ hb => hall b (List.getElem?_mem hb))
        (fun p hp' => Store.drained_setGroup_of_ne
          (fun he => hp' (Priority.streamName_injective _ he)) (h.others p hp'))
        (.inl ⟨rfl, ⟨hk, rfl, rfl, hp⟩, ?_⟩)⟩
    refine ⟨st.entries, _, Store.lane_setGroup_self, List.filter_eq_nil_iff.2 fun x hx => ?_,
      hlt _ hmem, hlt⟩
    simpa using hle x hx
  · exact .inr ⟨hnone hl, h.free hi rfl rfl⟩

theorem Inv.fetch (h : Inv q T s as k) (hi : as[i]? = some (.fetch w key e)) :
    ∃ t, (Cmd.get e.msg.taskId).run s = (.ok (some t), s) ∧
      Inv q T s (as.set i (.start w t e.id)) k := by
  obtain ⟨hk, -, he, t, hr, hs, hc⟩ := h.holds_at hi rfl
  exact ⟨t, by simp [Cmd.run, he, Store.getTask, hr],
    h.holder_keep hi rfl (fun _ => rfl) le_rfl rfl ⟨hk, hs, hc⟩⟩

theorem Inv.start (h : Inv q T s as k) (hi : as[i]? = some (.start w t j)) (now : Nat) :
    ∃ t₁, StateMachine.start w now t = (t₁, none) ∧
      Inv q T s (as.set i (.persist w t₁ j)) k := by
  obtain ⟨hk, hs, hc⟩ := h.holds_at hi rfl
  obtain ⟨t₁, hstart, hrun, hc₁⟩ := start_pending hs hc w now
  exact ⟨t₁, hstart, h.holder_keep hi rfl (fun _ => rfl) le_rfl rfl ⟨hk, hrun, hc₁⟩⟩

theorem Inv.persist (h : Inv q T s as k) (hi : as[i]? = some (.persist w t j)) (ttl : Nat) :
    Inv q T ((Cmd.set t.id t ttl).run s).2 (as.set i (.execute w t j)) k :=
  h.holder_keep hi rfl (fun _ => rfl) le_rfl rfl (h.holds_at hi rfl)

theorem Inv.execute (h : Inv q T s as k) (hi : as[i]? = some (.execute w t j)) (err : Error) :
    Inv q T s (as.set i (.failed w t j err)) (k + 1) := by
  obtain ⟨hk, hs, hc⟩ := h.holds_at hi rfl
  exact h.holder_keep hi rfl (fun _ => rfl) le_rfl rfl ⟨by omega, hs, hc⟩

theorem Inv.failed (h : Inv q T s as k) (hi : as[i]? = some (.failed w t j err)) (now : Nat) :
    Inv q T s (as.set i (if t.canRetry
      then .retry w { (StateMachine.retry now t).1 with error := err } j
      else .dead w (StateMachine.fail err now t).1 j)) k := by
  obtain ⟨hk, hs, hc⟩ := h.holds_at hi rfl
  have hcan : t.canRetry = decide ((k : Int) < T.maxRetries) := by
    simp [Task.canRetry, hc.attempts, hc.maxRetries]
  by_cases hlt : (k : Int) < T.maxRetries
  · have hto : t.state.canTransitionTo .retrying := by
      simp [hs, State.canTransitionTo, State.validTransitions]
    have hr : (StateMachine.retry now t).1 = StateMachine.stamp .retrying now t := by
      rw [StateMachine.retry_eq, hcan, decide_eq_true hlt, if_pos rfl,
        StateMachine.transition_of_can hto]
    rw [hcan, decide_eq_true hlt, if_pos rfl, hr]
    exact h.holder_keep hi rfl (fun _ => rfl) le_rfl rfl ⟨hlt, (hc.stamp _ now).error err⟩
  · have hto : t.state.canTransitionTo .failed := by
      simp [hs, State.canTransitionTo, State.validTransitions]
    have hf : (StateMachine.fail err now t).1 =
        { StateMachine.stamp .failed now t with error := err } := by
      rw [StateMachine.fail, StateMachine.transition_of_can hto]; rfl
    rw [hcan, decide_eq_false hlt, if_neg (by simp), hf]
    exact h.holder_keep hi rfl (fun _ => rfl) le_rfl rfl ⟨by omega, (hc.stamp _ now).error err⟩

theorem Inv.retry (h : Inv q T s as k) (hi : as[i]? = some (.retry w t j)) (ttl : Nat) :
    Inv q T ((Cmd.set t.id t ttl).run s).2 (as.set i (.requeueClock w t j)) k :=
  h.holder_keep hi rfl (fun _ => rfl) le_rfl rfl (h.holds_at hi rfl)

theorem Inv.requeueClock (h : Inv q T s as k) (hi : as[i]? = some (.requeueClock w t j))
    (now : Nat) :
    Inv q T s (as.set i (.requeue w (Retryer.prepareForRequeue now t) j)) k := by
  obtain ⟨hk, hc⟩ := h.holds_at hi rfl
  exact h.holder_keep hi rfl (fun _ => rfl) le_rfl rfl ⟨hk, rfl, hc.prepare now⟩

theorem Inv.requeue (h : Inv q T s as k) (hi : as[i]? = some (.requeue w t j)) :
    Inv q T ((Cmd.set t.id t 0).run s).2 (as.set i (.append w t j)) k := by
  obtain ⟨hk, hs, hc⟩ := h.holds_at hi rfl
  exact h.holder_keep hi rfl (fun _ => rfl) le_rfl rfl ⟨hk, by simp [Cmd.run, hc.id], hs, hc⟩

theorem Inv.append (h : Inv q T s as k) (hi : as[i]? = some (.append w t j)) :
    Inv q T ((Cmd.xadd (t.priority.streamName q.streamPrefix) ⟨t.id, t.type⟩).run s).2
      (as.set i (.ack w t j)) k := by
  obtain ⟨hk, hr, hs, hc⟩ := h.holds_at hi rfl
  obtain ⟨es, g, hl, hf, hd, hlt⟩ := h.lane_of_holder hi rfl
  rw [hc.priority, hc.id, hc.type]
  refine inv_set hi (fun _ _ hji hj => h.free_of_ne hi rfl hji hj)
    (fun p hp => Store.drained_of_lane_eq
      (Store.lane_xadd_of_ne (fun he => hp (Priority.streamName_injective _ he)) _) (h.others p hp))
    (.inr ⟨rfl, .inl ⟨hk, ⟨t, hr, hs, hc⟩, s.nextId, es ++ [⟨s.nextId, ⟨T.id, T.type⟩⟩], g,
      by rw [Store.lane_xadd_self, hl]; rfl, ?_, by simp; omega, fun x hx => ?_⟩⟩)
  · simp [List.filter_append, hf, hd]
  · rcases List.mem_append.1 hx with hx | hx
    · have := hlt x hx; simp; omega
    · simp [List.mem_singleton.1 hx]

theorem Inv.ack (h : Inv q T s as k) (hi : as[i]? = some (.ack w t j)) :
    Inv q T ((Cmd.xack (t.priority.streamName q.streamPrefix) q.consumerGroup j).run s).2
      (as.set i .done) k :=
  (h.same (same_xack _ j)).free hi rfl rfl

theorem Inv.dead (h : Inv q T s as k) (hi : as[i]? = some (.dead w t j)) (ttl : Nat) :
    Inv q T ((Cmd.set t.id t ttl).run s).2 (as.set i (.dlqClock w t j)) k :=
  h.holder_keep hi rfl (fun _ => rfl) le_rfl rfl (h.holds_at hi rfl)

theorem Inv.dlqClock (h : Inv q T s as k) (hi : as[i]? = some (.dlqClock w t j)) (now : Nat) :
    Inv q T s (as.set i (.dlqAdd w t j now)) k := by
  have hh := h.holds_at hi rfl
  exact h.holder_keep hi rfl (fun _ => rfl) le_rfl rfl hh

theorem Inv.dlqAdd (h : Inv q T s as k) (hi : as[i]? = some (.dlqAdd w t j now)) :
    Inv q T ((Cmd.dlqAdd (DLQ.forceDeadLetter now t).id (DLQ.forceDeadLetter now t).type
      ⟨DLQ.forceDeadLetter now t, "max retries exceeded", now,
        (DLQ.forceDeadLetter now t).error⟩).run s).2
      (as.set i (.sadd w t j now)) k := by
  obtain ⟨hk, hc⟩ := h.holds_at hi rfl
  exact h.holder_keep hi rfl (fun _ => rfl) (Nat.le_succ _) rfl
    ⟨hk, hc, _, List.mem_append_right _ (List.mem_singleton_self _), by simp [hc.id], rfl⟩

theorem Inv.sadd (h : Inv q T s as k) (hi : as[i]? = some (.sadd w t j now)) :
    Inv q T ((Cmd.sadd (DLQ.forceDeadLetter now t).id).run s).2 (as.set i (.ack w t j)) k := by
  obtain ⟨hk, hc, hdlq⟩ := h.holds_at hi rfl
  have hid : (DLQ.forceDeadLetter now t).id = T.id := by simp [hc.id]
  have hn : ((Cmd.sadd (DLQ.forceDeadLetter now t).id).run s).2.nextId = s.nextId := by
    simp only [Cmd.run]; split <;> rfl
  refine inv_set hi (fun _ _ hji hj => h.free_of_ne hi rfl hji hj)
    (h.others.of_lane fun _ => Store.lane_sadd _ _)
    (.inr ⟨rfl, .inr ⟨hk, (h.lane_of_holder hi rfl).of_lane (Store.lane_sadd _ _) hn.ge,
      hid ▸ Store.mem_dlqSet_sadd _, by simpa [InDLQ] using hdlq⟩⟩)

end Steps

end Inv

section Connect

variable {cfg : Config} {T : Task} {s : Store} {as : List Point} {k i : Nat} {a : Point}

theorem Point.free_of_stop (hm : a.move cfg = .stop) : a.free = true := by
  cases a <;> first | rfl | cases hm | (simp only [Point.move] at hm; split at hm <;> cases hm)

theorem Inv.redis (h : Inv cfg.queue T s as k) (hi : as[i]? = some a) {s' : Store} {a' : Point}
    (hm : (a.move cfg).cmdStep s = some (s', a')) : Inv cfg.queue T s' (as.set i a') k := by
  cases a <;> simp only [Point.move, failedMove, Move.cmdStep, Option.some.injEq, Prod.mk.injEq,
    reduceCtorEq] at hm
  case read w =>
    obtain ⟨rfl, rfl⟩ := hm
    rcases h.read hi with ⟨e, s₁, hrun, hinv⟩ | ⟨hrun, hinv⟩ <;> rw [hrun] <;> exact hinv
  case fetch w key e =>
    obtain ⟨rfl, rfl⟩ := hm
    obtain ⟨t, hrun, hinv⟩ := h.fetch hi
    rw [hrun]
    exact hinv
  case persist => obtain ⟨rfl, rfl⟩ := hm; exact h.persist hi _
  case retry => obtain ⟨rfl, rfl⟩ := hm; exact h.retry hi _
  case requeue => obtain ⟨rfl, rfl⟩ := hm; exact h.requeue hi
  case append => obtain ⟨rfl, rfl⟩ := hm; exact h.append hi
  case ack => obtain ⟨rfl, rfl⟩ := hm; exact h.ack hi
  case dead => obtain ⟨rfl, rfl⟩ := hm; exact h.dead hi _
  case dlqAdd => obtain ⟨rfl, rfl⟩ := hm; exact h.dlqAdd hi
  case sadd => obtain ⟨rfl, rfl⟩ := hm; exact h.sadd hi
  case execute => split_ifs at hm
  all_goals exact (h.holds_at hi rfl).elim

theorem Inv.time (htype : T.type ∈ cfg.handlers) (h : Inv cfg.queue T s as k)
    (hi : as[i]? = some a) {next : Nat → Point} (hm : a.move cfg = .time next) :
    Inv cfg.queue T s (as.set i (next s.clock)) k := by
  cases a <;> simp only [Point.move, failedMove, Move.time.injEq, reduceCtorEq] at hm <;>
    try subst hm
  case start =>
    obtain ⟨t₁, hstart, hinv⟩ := h.start hi s.clock
    simp only [hstart]
    exact hinv
  case failed => exact h.failed hi _
  case requeueClock => exact h.requeueClock hi _
  case dlqClock => exact h.dlqClock hi _
  case execute t j =>
    rw [if_pos ((h.holds_at hi rfl).2.2.type ▸ htype)] at hm
    cases hm
  case complete => exact (h.holds_at hi rfl).elim

theorem Inv.handler (h : Inv cfg.queue T s as k) (hi : as[i]? = some a) {t : Task}
    {next : Outcome → Point} (hm : a.move cfg = .call t next) {o : Outcome} (ho : ∀ r, o ≠ .ok r) :
    t.id = T.id ∧ Inv cfg.queue T s (as.set i (next o)) (k + 1) := by
  cases a <;> simp only [Point.move, failedMove, reduceCtorEq] at hm
  case execute w t' j =>
    split at hm
    · simp only [Move.call.injEq] at hm
      obtain ⟨rfl, rfl⟩ := hm
      refine ⟨(h.holds_at hi rfl).2.2.id, ?_⟩
      cases o with
      | ok r => exact absurd rfl (ho r)
      | _ => exact h.execute hi _
    · cases hm

theorem Waiting.inv (hW : Waiting cfg.queue T k s) (hk : (k : Int) < T.maxRetries) :
    Inv cfg.queue T s [] k :=
  ⟨hW.others, fun _ _ _ _ h => by simp at h, fun _ h => by simp at h,
    .inr ⟨fun _ h => by simp at h, .inl ⟨hk, hW.record, hW.next⟩⟩⟩

theorem Inv.quiescent (h : Inv cfg.queue T s [] k) :
    (Queued cfg.queue T s k ∧ Waiting cfg.queue T k s) ∨ Dead cfg.queue T s k := by
  rcases h.token with ⟨⟨_, ha, _⟩, _⟩ | ⟨_, hq | hd⟩
  · simp at ha
  · exact .inl ⟨hq, hq.2.1, h.others, hq.2.2⟩
  · exact .inr hd

end Connect

section Run

variable (cfg : Config) (T : Task)

/-- A state of a run: its rounds in flight stand at points for which the invariant holds with
the handler calls made so far, and every call was on `T`. -/
def Consistent (sys : Sys Call) : Prop :=
  ∃ as : List Point, sys.running = as.map (Point.prog cfg) ∧
    Inv cfg.queue T sys.store as sys.executed.length ∧ ∀ t ∈ sys.executed, t.id = T.id

variable {cfg T} {sys sys' : Sys Call} {k : Nat}

theorem Consistent.step (htype : T.type ∈ cfg.handlers) (hs : Round cfg sys sys')
    (h : Consistent cfg T sys) : Consistent cfg T sys' := by
  obtain ⟨as, hrun, hI, hid⟩ := h
  have hp := Point.prog_eq cfg
  cases hs with
  | start w =>
    exact ⟨as ++ [.read w], by rw [hrun, List.map_append]; rfl,
      hI.concat (show (Point.read w).free = true from rfl), hid⟩
  | finish i hq =>
    obtain ⟨a, hi, hm⟩ := getElem?_map_prog hp (hrun ▸ hq)
    exact ⟨as.eraseIdx i, by rw [hrun, map_eraseIdx],
      hI.eraseIdx hi (Point.free_of_stop (Move.prog_eq_ret hm)), hid⟩
  | redis i c k hq =>
    obtain ⟨a, hi, hm⟩ := getElem?_map_prog hp (hrun ▸ hq)
    obtain ⟨next, hmv, rfl⟩ := Move.prog_eq_redis hm
    exact ⟨as.set i (next (c.run sys.store).1), by rw [hrun, List.map_set],
      hI.redis hi (by rw [hmv]; rfl), hid⟩
  | time i k hq =>
    obtain ⟨a, hi, hm⟩ := getElem?_map_prog hp (hrun ▸ hq)
    obtain ⟨next, hmv, rfl⟩ := Move.prog_eq_time hm
    exact ⟨as.set i (next sys.store.clock), by rw [hrun, List.map_set], hI.time htype hi hmv,
      hid⟩
  | handler i t k o ho hq =>
    obtain ⟨a, hi, hm⟩ := getElem?_map_prog hp (hrun ▸ hq)
    obtain ⟨next, hmv, rfl⟩ := Move.prog_eq_handler hm
    obtain ⟨hT, hI'⟩ := hI.handler hi hmv ho
    refine ⟨as.set i (next o), by rw [hrun, List.map_set], by simpa using hI', fun t' ht' => ?_⟩
    rcases List.mem_append.1 ht' with ht' | ht'
    · exact hid t' ht'
    · exact List.mem_singleton.1 ht' ▸ hT
  | tick n => exact ⟨as, hrun, hI.same (same_tick n), hid⟩

theorem Consistent.run (htype : T.type ∈ cfg.handlers) (hr : ReflTransGen (Round cfg) sys sys')
    (h : Consistent cfg T sys) : Consistent cfg T sys' := by
  induction hr with
  | refl => exact h
  | tail _ hs ih => exact ih.step htype hs

theorem round_of_waiting (htype : T.type ∈ cfg.handlers) (hidle : sys.running = [])
    (hW : Waiting cfg.queue T k sys.store) :
    ∃ t sys', ReflTransGen (Round cfg) sys sys' ∧ sys'.running = [] ∧
      sys'.executed = sys.executed ++ [t] := by
  have hfail : ∀ (t : Task) (r : Option String), Outcome.err "" ≠ .ok r := fun _ _ => by simp
  obtain ⟨t, s', -, hr⟩ := run_processNextTask_round (fun _ => .err "") (cfg.pool "worker")
    sys.executed hW htype hfail
  refine ⟨t, _, .head (Round.start sys "worker")
    (Round.run_alone hfail (Call.prog cfg (.processNextTask "worker")) _ (by simp [hidle])),
    rfl, ?_⟩
  simp only [Call.prog, discard, run_bind, hr]
  rfl

/-- From every state with no round in flight, the run can go on to one with no round in flight
in which the handler has been called `max_retries` times. -/
theorem reach_budget (htype : T.type ∈ cfg.handlers) :
    ∀ (n : Nat) (sys : Sys Call), (sys.executed.length + n : Int) = T.maxRetries →
      sys.running = [] → Consistent cfg T sys → ∃ sys', ReflTransGen (Round cfg) sys sys' ∧
        sys'.running = [] ∧ (sys'.executed.length : Int) = T.maxRetries
  | 0, sys, hn, hidle, _ => ⟨sys, .refl, hidle, by simpa using hn⟩
  | n + 1, sys, hn, hidle, hc@⟨as, hrun, hI, _⟩ => by
    obtain rfl : as = [] := List.map_eq_nil_iff.1 (hrun.symm.trans hidle)
    rcases hI.quiescent with ⟨-, hW⟩ | ⟨hk, -⟩
    · obtain ⟨t, sys₁, hr, hidle₁, hex⟩ := round_of_waiting htype hidle hW
      obtain ⟨sys', hr', h'⟩ :=
        reach_budget htype n sys₁ (by rw [hex]; simp; omega) hidle₁ (hc.run htype hr)
      exact ⟨sys', hr.trans hr', h'⟩
    · omega

end Run

section Budget

/-- The retry budget under any number of worker rounds at once: the always-failing handler runs
only on the task, at most `m` times, any idle state can be run on to exactly `m` calls, and there
the task is in the DLQ. -/
theorem worker_executes_max_retries_times (cfg : Config) (h : Task → Outcome) (s : Store)
    (hI : Idle cfg.queue s) (id : String) (req : CreateTaskRequest) (hm : 0 < req.maxRetries)
    (htype : req.type ∈ cfg.handlers) (hne : req.type ≠ "") (hnow : req.scheduledAt = none) :
    let created := run h (TaskHandler.create ⟨cfg.queue, cfg.maxQueueSize⟩ id req) ⟨s, [], []⟩
    (∃ t, created.1 = .task 201 t) ∧
      ∀ sys, ReflTransGen (Round cfg) ⟨created.2.store, [], [], []⟩ sys →
        (∀ t ∈ sys.executed, t.id = id) ∧ (sys.executed.length : Int) ≤ req.maxRetries ∧
        (sys.running = [] → ∃ sys', ReflTransGen (Round cfg) sys sys' ∧ sys'.running = [] ∧
          (sys'.executed.length : Int) = req.maxRetries) ∧
        (sys.running = [] → (sys.executed.length : Int) = req.maxRetries →
          id ∈ sys.store.dlqSet ∧
            ∃ m ∈ sys.store.dlq, m.taskId = id ∧ m.data.reason = "max retries exceeded") := by
  let T := fromRequest id s.clock req
  have hT : T.maxRetries = req.maxRetries := by simp [T, fromRequest, hm, hnow]
  have hTid : T.id = id := by simp [T, fromRequest, hnow, new, hm]
  have hTtype : T.type ∈ cfg.handlers := by simpa [T, fromRequest, hnow, new, hm] using htype
  have hW : Waiting cfg.queue T 0 _ := waiting_enqueue hI
    (by simp [T, fromRequest, hnow, new, hm]) (by simp [T, fromRequest, hnow, new, hm])
  have h0 : Consistent cfg T ⟨_, [], [], []⟩ := ⟨[], rfl, hW.inv (by simp [hT, hm]), by simp⟩
  simp only [run_create_idle _ [] hI _ _ _ hne hnow]
  refine ⟨⟨_, rfl⟩, fun sys hr => ?_⟩
  obtain ⟨as, hrun, hinv, hid⟩ := h0.run hTtype hr
  refine ⟨fun t ht => hTid ▸ hid t ht, hT ▸ hinv.le, fun hidle => ?_, fun hidle hlen => ?_⟩
  · obtain ⟨sys', hr', hidle', hlen'⟩ := reach_budget hTtype
      (T.maxRetries - sys.executed.length).toNat sys (by have := hinv.le; omega) hidle
      ⟨as, hrun, hinv, hid⟩
    exact ⟨sys', hr', hidle', hT ▸ hlen'⟩
  · obtain rfl : as = [] := List.map_eq_nil_iff.1 (hrun.symm.trans hidle)
    rcases hinv.quiescent with ⟨⟨hk, -⟩, -⟩ | ⟨-, -, hset, m, hm, hmid, hr⟩
    · omega
    · exact ⟨hTid ▸ hset, m, hm, hTid ▸ hmid, hr⟩

theorem worker_executes_max_retries_times_two :
    let cfg := Config.default ["echo"]
    let created := run (fun _ => .err "boom")
      (TaskHandler.create ⟨cfg.queue, cfg.maxQueueSize⟩ "t1" ⟨"echo", 1, 2, none⟩)
      ⟨cfg.initialStore, [], []⟩
    (∃ t, created.1 = .task 201 t) ∧
      ∀ sys, ReflTransGen (Round cfg) ⟨created.2.store, [], [], []⟩ sys →
        (∀ t ∈ sys.executed, t.id = "t1") ∧ (sys.executed.length : Int) ≤ 2 ∧
        (sys.running = [] → ∃ sys', ReflTransGen (Round cfg) sys sys' ∧ sys'.running = [] ∧
          (sys'.executed.length : Int) = 2) ∧
        (sys.running = [] → (sys.executed.length : Int) = 2 →
          "t1" ∈ sys.store.dlqSet ∧
            ∃ m ∈ sys.store.dlq, m.taskId = "t1" ∧ m.data.reason = "max retries exceeded") :=
  worker_executes_max_retries_times _ _ _ (initialStore_idle _) _ _ (by decide) (by decide)
    (by decide) rfl

/-- With `max_retries = 1` one round calls the handler once and leaves the task in the DLQ, so
no later round executes it again. -/
theorem single_retry_budget_single_execution :
    let cfg := Config.default ["echo"]
    let created := run (fun _ => .err "boom")
      (TaskHandler.create ⟨cfg.queue, cfg.maxQueueSize⟩ "t1" ⟨"echo", 1, 1, none⟩)
      ⟨cfg.initialStore, [], []⟩
    ∃ sys, ReflTransGen (Round cfg) ⟨created.2.store, [], [], []⟩ sys ∧ sys.running = [] ∧
      sys.executed.length = 1 ∧ "t1" ∈ sys.store.dlqSet :=
  ⟨_, .head (Round.start _ "w1")
    (@Round.run_alone _ (fun _ => .err "boom") (fun _ _ => by simp) _ _ rfl), rfl, by decide,
    by decide⟩

end Budget

end Settlement

end TaskQueue
