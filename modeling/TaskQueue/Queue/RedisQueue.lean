import TaskQueue.Store.Prog
set_option autoImplicit false

namespace TaskQueue

open Prog Redis

structure RedisQueue where
  streamPrefix : String
  consumerGroup : String
  claimMinIdle : Nat
  taskRetentionDays : Int

namespace RedisQueue

def priorities : List Priority := [.critical, .high, .normal, .low]

def hour : Nat := 3600 * 1000000000

def initStreams (q : RedisQueue) : Prog (Option Error) := go priorities
where
  go : List Priority → Prog (Option Error)
  | [] => return none
  | p :: rest => do
    let streamName := p.streamName q.streamPrefix
    match ← exec (.xgroupCreateMkStream streamName q.consumerGroup) with
    | .error e =>
      if e ≠ busyGroup then
        return some ("failed to create consumer group for " ++ streamName ++ ": " ++ e)
      else go rest
    | .ok () => go rest

/-- `Enqueue`: the record first, then the stream message; a failed append deletes the
record again. -/
def enqueue (q : RedisQueue) (t : Task) : Prog (Option Error) := do
  let streamName := t.priority.streamName q.streamPrefix
  match ← exec (.set t.id t 0) with
  | .error e => return some ("failed to store task data: " ++ e)
  | .ok () =>
    match ← exec (.xadd streamName ⟨t.id, t.type⟩) with
    | .error e =>
      let _ ← exec (.del t.id)
      return some ("failed to add task to stream: " ++ e)
    | .ok _ => return none

def getTask (taskID : String) : Prog (Except Error Task) := do
  match ← exec (.get taskID) with
  | .error e => return .error ("failed to get task: " ++ e)
  | .ok none => return .error errTaskNotFound
  | .ok (some t) => return .ok t

def updateTask (q : RedisQueue) (t : Task) : Prog (Option Error) := do
  let ttl := if t.state.isFinal ∧ q.taskRetentionDays > 0 then q.taskRetentionDays.toNat * 24 * hour
    else 0
  match ← exec (.set t.id t ttl) with
  | .error e => return some e
  | .ok () => return none

def acknowledge (q : RedisQueue) (t : Task) (messageID : Nat) : Prog (Option Error) := do
  match ← exec (.xack (t.priority.streamName q.streamPrefix) q.consumerGroup messageID) with
  | .error e => return some e
  | .ok _ => return none

/-- `DequeueBlocking`: one `XREADGROUP ... COUNT 1` over the four streams; only the first
message of the first stream in the reply is looked at. -/
def dequeueBlocking (q : RedisQueue) (consumerID : String) :
    Prog (Except Error (Option (Task × Nat))) := do
  let streams := priorities.map (·.streamName q.streamPrefix)
  match ← exec (.xreadgroup q.consumerGroup consumerID streams 1) with
  | .error e => return .error ("failed to read from streams: " ++ e)
  | .ok [] | .ok ((_, []) :: _) => return .ok none
  | .ok ((streamName, msg :: _) :: _) =>
    match ← getTask msg.msg.taskId with
    | .error _ =>
      let _ ← exec (.xack streamName q.consumerGroup msg.id)
      return .ok none
    | .ok t => return .ok (some (t, msg.id))

def claimPending (q : RedisQueue) (consumerID streamName : String) :
    List PendingInfo → Prog (List (Task × Nat))
  | [] => return []
  | p :: rest => do
    if p.idle < q.claimMinIdle then claimPending q consumerID streamName rest
    else
      match ← exec (.xclaim streamName q.consumerGroup consumerID q.claimMinIdle p.id) with
      | .error _ | .ok [] => claimPending q consumerID streamName rest
      | .ok (msg :: _) =>
        match ← getTask msg.msg.taskId with
        | .error _ => claimPending q consumerID streamName rest
        | .ok t => return (t, msg.id) :: (← claimPending q consumerID streamName rest)

def claimStreams (q : RedisQueue) (consumerID : String) : List Priority → Prog (List (Task × Nat))
  | [] => return []
  | p :: rest => do
    let streamName := p.streamName q.streamPrefix
    match ← exec (.xpending streamName q.consumerGroup 100) with
    | .error _ => claimStreams q consumerID rest
    | .ok pending =>
      let claimed ← claimPending q consumerID streamName pending
      return claimed ++ (← claimStreams q consumerID rest)

def claimOrphanedTasks (q : RedisQueue) (consumerID : String) : Prog (List (Task × Nat)) :=
  claimStreams q consumerID priorities

def getQueueDepth (q : RedisQueue) : Prog (List (Priority × Nat)) :=
  go priorities
where
  go : List Priority → Prog (List (Priority × Nat))
  | [] => return []
  | p :: rest => do
    match ← exec (.xinfoPending (p.streamName q.streamPrefix) q.consumerGroup) with
    | .error _ => go rest
    | .ok n => return (p, n) :: (← go rest)

theorem priorities_complete (p : Priority) : p ∈ priorities := by cases p <;> decide

theorem priorities_streamName_nodup (streamPrefix : String) :
    (priorities.map (·.streamName streamPrefix)).Nodup := by
  simp [priorities, (Priority.streamName_injective streamPrefix).eq_iff]

section Faultless

/-! The procedures of the queue run without store failures. -/

variable (h : Task → Outcome) (s : Store) (cs : List Task) (q : RedisQueue)

theorem run_getTask (id : String) : run h (getTask id) ⟨s, [], cs⟩ =
    ((s.getTask id).elim (.error errTaskNotFound) .ok, ⟨s, [], cs⟩) := by
  simp only [getTask, bind_eq, run_exec_bind, Cmd.run]
  cases s.getTask id <;> rfl

theorem run_updateTask (t : Task) : run h (q.updateTask t) ⟨s, [], cs⟩ =
    (none, ⟨((Cmd.set t.id t (if t.state.isFinal ∧ q.taskRetentionDays > 0 then
      q.taskRetentionDays.toNat * 24 * hour else 0)).run s).2, [], cs⟩) := rfl

theorem run_enqueue (t : Task) : run h (q.enqueue t) ⟨s, [], cs⟩ =
    (none, ⟨((Cmd.xadd (t.priority.streamName q.streamPrefix) ⟨t.id, t.type⟩).run
      ((Cmd.set t.id t 0).run s).2).2, [], cs⟩) := rfl

theorem run_getQueueDepth_go : ∀ ps : List Priority, run h (getQueueDepth.go q ps) ⟨s, [], cs⟩ =
    (ps.filterMap fun p => (s.group (p.streamName q.streamPrefix) q.consumerGroup).map
      fun x => (p, x.2.pel.length), ⟨s, [], cs⟩)
  | [] => rfl
  | p :: ps => by
    simp only [getQueueDepth.go, bind_eq, run_exec_bind, Cmd.run]
    rcases hg : s.group (p.streamName q.streamPrefix) q.consumerGroup with _ | ⟨st, g⟩
    · simp [run_getQueueDepth_go ps, hg]
    · simp only [run_bind, run_getQueueDepth_go ps]
      simp [hg]
      rfl

theorem run_acknowledge (t : Task) (i : Nat) : run h (q.acknowledge t i) ⟨s, [], cs⟩ =
    (none, ⟨((Cmd.xack (t.priority.streamName q.streamPrefix) q.consumerGroup i).run s).2, [], cs⟩) := by
  simp only [acknowledge, bind_eq, run_exec_bind, Cmd.run]
  rcases s.group (t.priority.streamName q.streamPrefix) q.consumerGroup with _ | ⟨st, g⟩ <;> rfl

theorem run_dequeueBlocking_single (consumer : String) {p : Priority} {st : Stream} {g : Group}
    {e : Entry} {t : Task} (hg : s.group (p.streamName q.streamPrefix) q.consumerGroup = some (st, g))
    (he : st.entries.filter (fun x => decide (g.lastDelivered < x.id)) = [e])
    (hd : ∀ p', p' ≠ p → s.drained (p'.streamName q.streamPrefix) q.consumerGroup)
    (ht : s.getTask e.msg.taskId = some t) :
    run h (q.dequeueBlocking consumer) ⟨s, [], cs⟩ =
      (.ok (some (t, e.id)), ⟨s.setGroup (p.streamName q.streamPrefix) q.consumerGroup st
        ⟨e.id, g.pel ++ [⟨e.id, consumer, s.clock⟩]⟩, [], cs⟩) := by
  have hd' : ∀ k ∈ priorities.map (·.streamName q.streamPrefix),
      k ≠ p.streamName q.streamPrefix → s.drained k q.consumerGroup := by
    simp only [List.mem_map]
    rintro _ ⟨p', -, rfl⟩ hne
    exact hd p' fun h => hne (h ▸ rfl)
  simp only [dequeueBlocking, bind_eq, run_exec_bind, Cmd.run,
    readGroup_single hg he (priorities_streamName_nodup _)
      (List.mem_map_of_mem _ (priorities_complete p)) hd']
  simp only [run_bind, run_getTask, Store.getTask_setGroup, ht]
  rfl

end Faultless

section Enqueue

variable (q : RedisQueue) (h : Task → Outcome) (t : Task) (w : World)

/-- A failed `Enqueue` leaves every stream as it was; the record is restored only when its write
failed, or when there was none and the cleanup delete went through. -/
theorem enqueue_error_restores (he : (run h (q.enqueue t) w).1.isSome) :
    let w' := (run h (q.enqueue t) w).2
    w'.store.streams = w.store.streams ∧ w'.store.nextId = w.store.nextId ∧
      (w.faults.head? = some true ∨ w.store.getTask t.id = none ∧ w.faults[2]? ≠ some true →
        w'.store.getTask t.id = w.store.getTask t.id) ∧
      (w.faults.head? ≠ some true →
        w'.store.getTask t.id = if w.faults[2]? = some true then some t else none) := by
  rcases w with ⟨s, _ | ⟨_ | _, _ | ⟨_ | _, _ | ⟨_ | _, fs⟩⟩⟩, calls⟩ <;>
    simp [run, enqueue, exec, Prog.bind, Cmd.run, Store.getTask] at he ⊢ <;> simp_all

/-- Re-enqueueing a task whose record is there: the append fails, the cleanup deletes the
record. -/
theorem enqueue_failed_append_deletes_record :
    let q : RedisQueue := ⟨"tasks", "workers", 30000000000, 7⟩
    let t := new "t1" "echo" .normal 0
    let w : World :=
      ⟨{ Store.empty with records := Function.update Store.empty.records "t1" (some ⟨t, none⟩) },
        [false, true], []⟩
    let r := run (fun _ => .ok none) (q.enqueue t) w
    r.1.isSome ∧ w.store.getTask "t1" = some t ∧ r.2.store.getTask "t1" = none := by
  decide

theorem enqueue_failed_write_restores :
    let q : RedisQueue := ⟨"tasks", "workers", 30000000000, 7⟩
    let t := new "t1" "echo" .normal 0
    let w : World := ⟨Store.empty, [true], []⟩
    (run (fun _ => .ok none) (q.enqueue t) w).1.isSome ∧
      let w' := (run (fun _ => .ok none) (q.enqueue t) w).2
      w'.store.streams = w.store.streams ∧ w'.store.nextId = w.store.nextId ∧
        (w.faults.head? = some true ∨ w.store.getTask t.id = none ∧ w.faults[2]? ≠ some true →
          w'.store.getTask t.id = w.store.getTask t.id) ∧
        (w.faults.head? ≠ some true →
          w'.store.getTask t.id = if w.faults[2]? = some true then some t else none) :=
  ⟨by decide, enqueue_error_restores _ _ _ _ (by decide)⟩

end Enqueue

/-- A critical and a low task are both waiting: the one read delivers both messages into the
consumer's PEL, returns the critical one and leaves the low one pending, neither returned
nor acknowledged. -/
theorem dequeueBlocking_parks_second_stream :
    let q : RedisQueue := ⟨"tasks", "workers", 30000000000, 7⟩
    let a := new "a" "echo" .critical 0
    let b := new "b" "echo" .low 0
    let setup : Prog (Option Error) := do
      let _ ← q.initStreams
      let _ ← q.enqueue a
      q.enqueue b
    let w := (run (fun _ => .ok none) setup ⟨Store.empty, [], []⟩).2
    let r := run (fun _ => .ok none) (q.dequeueBlocking "w1") w
    r.1.toOption = some (some (a, 1)) ∧
      (r.2.store.group "tasks:low" "workers").map (fun g => g.2.pel) = some [⟨2, "w1", 0⟩] ∧
      (r.2.store.group "tasks:low" "workers").map (fun g => g.1.entries) =
        some [⟨2, ⟨"b", "echo"⟩⟩] := by
  decide

end RedisQueue
end TaskQueue
