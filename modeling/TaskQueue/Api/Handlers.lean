import TaskQueue.Queue.Scheduler
import TaskQueue.Queue.DLQ
set_option autoImplicit false

namespace TaskQueue

open Prog Redis

inductive Response
  | task (status : Nat) (t : Task)
  | message (status : Nat) (text : String)
  | error (status : Nat) (message : String)
  | json (status : Nat) (fields : List (String × String))
  deriving DecidableEq, Repr

structure TaskHandler where
  queue : RedisQueue
  maxQueueSize : Int

namespace TaskHandler

/-- `Create`, with the uuid `New` draws as an argument. Its schedule function is
`ScheduleTaskFunc`, as the routes wire it. -/
def create (h : TaskHandler) (id : String) (req : CreateTaskRequest) : Prog Response := do
  if req.type = "" then return .error 400 "task type is required"
  if h.maxQueueSize > 0 then
    let depths ← h.queue.getQueueDepth
    if ((depths.map (·.2)).sum : Int) ≥ h.maxQueueSize then
      return .error 503 "queue at capacity"
  let now ← timeNow
  let t := fromRequest id now req
  match req.scheduledAt with
  | some when =>
    if when > now then
      let t := { t with state := .scheduled }
      match ← Scheduler.scheduleTaskFunc t when with
      | some _ => return .error 500 "failed to schedule task"
      | none => return .task 201 t
    else
      match ← h.queue.enqueue t with
      | some _ => return .error 500 "failed to enqueue task"
      | none => return .task 201 t
  | none =>
    match ← h.queue.enqueue t with
    | some _ => return .error 500 "failed to enqueue task"
    | none => return .task 201 t

def cancel (h : TaskHandler) (taskID : String) : Prog Response := do
  if taskID = "" then return .error 400 "task ID is required"
  match ← RedisQueue.getTask taskID with
  | .error e =>
    if e = errTaskNotFound then return .error 404 "task not found"
    else return .error 500 "failed to get task"
  | .ok t =>
    if t.state ≠ .pending ∧ t.state ≠ .scheduled then
      return .error 409 "task cannot be cancelled in current state"
    let now ← timeNow
    match StateMachine.cancel now t with
    | (_, some _) => return .error 409 "failed to cancel task"
    | (t, none) =>
      match ← h.queue.updateTask t with
      | some _ => return .error 500 "failed to cancel task"
      | none => return .task 200 t

end TaskHandler

namespace AdminHandler

def retryTask (q : RedisQueue) (taskID : String) : Prog Response := do
  if taskID = "" then return .error 400 "task ID is required"
  match ← RedisQueue.getTask taskID with
  | .error e =>
    if e = errTaskNotFound then return .error 404 "task not found"
    else return .error 500 "failed to get task"
  | .ok t =>
    if t.state ≠ .failed ∧ t.state ≠ .deadLetter then
      return .error 409 "only failed or dead_letter tasks can be retried"
    let now ← timeNow
    match StateMachine.requeue now t with
    | (_, some _) => return .error 409 "failed to requeue task"
    | (t, none) =>
      match ← q.updateTask t with
      | some _ => return .error 500 "failed to retry task"
      | none =>
        match ← q.enqueue t with
        | some _ => return .error 500 "failed to retry task"
        | none => return .message 200 "task re-queued"

structure RetryDLQRequest where
  taskID : String
  retryAll : Bool
  messageID : Nat

def retryDLQ (q : RedisQueue) (req : RetryDLQRequest) : Prog Response := do
  if req.retryAll then
    match ← DLQ.retryAll q with
    | .error _ => return .error 500 "failed to retry DLQ tasks"
    | .ok _ => return .message 200 "tasks re-queued"
  if req.taskID = "" then return .error 400 "task_id or retry_all is required"
  match ← DLQ.retry q req.taskID req.messageID with
  | some e =>
    if e = errTaskNotFound then return .error 404 "task not found in DLQ"
    else return .error 500 "failed to retry task"
  | none => return .message 200 "task re-queued"

def clearDLQ : Prog Response := do
  match ← DLQ.clear with
  | some _ => return .error 500 "failed to clear DLQ"
  | none => return .message 200 "DLQ cleared"

/-- `PurgeQueue`, with the URL's priority as its argument. The stream key and the group are
written out in the handler, not read from the queue's configuration; a failed recreate is only
logged. -/
def purgeQueue (priority : String) : Prog Response := do
  if priority = "" then return .error 400 "priority is required"
  let p := parsePriority priority
  if priority ≠ p.toString then
    return .error 400 "invalid priority: must be critical, high, normal, or low"
  let streamName := "tasks:" ++ priority
  match ← exec (.delStream streamName) with
  | .error _ => return .error 500 "failed to purge queue"
  | .ok () =>
    let _ ← exec (.xgroupCreateMkStream streamName "workers")
    return .json 200 [("message", "queue purged"), ("priority", priority)]

section Purge

variable (h : Task → Outcome)

theorem purgeQueue_streams_of_ne (priority : String) (w : World) {key : String}
    (hk : key ≠ "tasks:" ++ priority) :
    (run h (purgeQueue priority) w).2.store.streams key = w.store.streams key := by
  simp only [purgeQueue, bind_eq, pure_eq, ret_bind]
  split_ifs
  · rfl
  · rfl
  · rcases w with ⟨s, _ | ⟨_ | _, _ | ⟨_ | _, fs⟩⟩, calls⟩ <;>
      simp [run, exec, Prog.bind, Store.streams_delStream, hk,
        Store.streams_xgroupCreateMkStream_of_ne]

theorem purgeQueue_run (p : Priority) (s : Store) (calls : List Task) :
    let r := run h (purgeQueue p.toString) ⟨s, [], calls⟩
    r.1 = .json 200 [("message", "queue purged"), ("priority", p.toString)] ∧
      r.2.store.lane ("tasks:" ++ p.toString) "workers" = some ([], ⟨0, []⟩) := by
  have hv : p.toString ≠ "" ∧ (parsePriority p.toString).toString = p.toString := by
    cases p <;> decide
  simp only [purgeQueue, bind_eq, pure_eq, ret_bind, hv, ne_eq, not_true_eq_false,
    not_false_eq_true, if_false]
  exact ⟨rfl, Store.lane_xgroupCreateMkStream_of_none (by simp [Store.streams_delStream])⟩

theorem purgeQueue_resets_default_stream (q : RedisQueue) (hp : q.streamPrefix = "tasks")
    (hg : q.consumerGroup = "workers") (p : Priority) (s : Store) (calls : List Task) :
    let r := run h (purgeQueue p.toString) ⟨s, [], calls⟩
    r.2.store.lane (p.streamName q.streamPrefix) q.consumerGroup = some ([], ⟨0, []⟩) ∧
      ∀ p', p' ≠ p → r.2.store.streams (p'.streamName q.streamPrefix) =
        s.streams (p'.streamName q.streamPrefix) := by
  have hname : ∀ p : Priority, p.streamName "tasks" = "tasks:" ++ p.toString := by
    intro p; cases p <;> decide
  refine ⟨by rw [hp, hg, hname]; exact (purgeQueue_run h p s calls).2, fun p' hne => ?_⟩
  refine purgeQueue_streams_of_ne h _ _ ?_
  rw [hp, ← hname]
  exact fun he => hne ((Priority.streamName_injective "tasks") he)

/-- With the integration tests' names (prefix test_tasks, group test_workers), purging high
answers that the queue was purged while the queue's own high stream is what it was. -/
theorem purgeQueue_misses_configured_stream (s : Store) (calls : List Task) :
    let q : RedisQueue := ⟨"test_tasks", "test_workers", 5000000000, 0⟩
    let r := run h (purgeQueue "high") ⟨s, [], calls⟩
    r.1 = .json 200 [("message", "queue purged"), ("priority", "high")] ∧
      r.2.store.streams (Priority.high.streamName q.streamPrefix) =
        s.streams (Priority.high.streamName q.streamPrefix) :=
  ⟨(purgeQueue_run h .high s calls).1, purgeQueue_streams_of_ne h _ _ (by decide)⟩

end Purge

end AdminHandler
end TaskQueue
