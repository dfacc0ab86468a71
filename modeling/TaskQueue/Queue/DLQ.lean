import TaskQueue.Queue.RedisQueue
set_option autoImplicit false

namespace TaskQueue.DLQ

open Prog Redis

structure DLQEntry where
  task : Task
  reason : String
  addedAt : Nat
  origError : String
  messageID : Nat
  deriving DecidableEq, Repr

def forceDeadLetter (now : Nat) (t : Task) : Task :=
  match StateMachine.moveToDLQ now t with
  | (t, none) => t
  | (t, some _) => { t with state := .deadLetter, updatedAt := now }

@[simp] theorem forceDeadLetter_state (now : Nat) (t : Task) :
    (forceDeadLetter now t).state = .deadLetter := by
  unfold forceDeadLetter StateMachine.moveToDLQ
  rcases StateMachine.transition_cases .deadLetter now t with ⟨-, e⟩ | ⟨-, e⟩ <;> simp [e]

@[simp] theorem forceDeadLetter_id (now : Nat) (t : Task) : (forceDeadLetter now t).id = t.id := by
  unfold forceDeadLetter StateMachine.moveToDLQ
  rcases StateMachine.transition_cases .deadLetter now t with ⟨-, e⟩ | ⟨-, e⟩ <;> simp [e]

@[simp] theorem forceDeadLetter_type (now : Nat) (t : Task) :
    (forceDeadLetter now t).type = t.type := by
  unfold forceDeadLetter StateMachine.moveToDLQ
  rcases StateMachine.transition_cases .deadLetter now t with ⟨-, e⟩ | ⟨-, e⟩ <;> simp [e]

@[simp] theorem forceDeadLetter_error (now : Nat) (t : Task) :
    (forceDeadLetter now t).error = t.error := by
  unfold forceDeadLetter StateMachine.moveToDLQ
  rcases StateMachine.transition_cases .deadLetter now t with ⟨-, e⟩ | ⟨-, e⟩ <;> simp [e]

/-- `Add`: the state moves to dead_letter in memory only; the entry goes to the stream, then
the id to the set. -/
def add (t : Task) (reason : String) : Prog (Option Error) := do
  let now ← timeNow
  let t := forceDeadLetter now t
  match ← exec (.dlqAdd t.id t.type ⟨t, reason, now, t.error⟩) with
  | .error e => return some ("failed to add to DLQ stream: " ++ e)
  | .ok _ =>
    let _ ← exec (.sadd t.id)
    return none

theorem run_add (h : Task → Outcome) (s : Store) (cs : List Task) (t : Task) (reason : String) :
    run h (add t reason) ⟨s, [], cs⟩ = (none, ⟨((Cmd.sadd t.id).run ((Cmd.dlqAdd t.id t.type
      ⟨forceDeadLetter s.clock t, reason, s.clock, t.error⟩).run s).2).2, [], cs⟩) := by
  simp only [add, bind_eq, run_timeNow_bind, run_exec_bind, forceDeadLetter_id,
    forceDeadLetter_type, forceDeadLetter_error]
  rfl

def DLQEntry.ofMessage (m : DLQMessage) : DLQEntry :=
  ⟨m.data.task, m.data.reason, m.data.addedAt, m.data.origError, m.id⟩

def list (count : Int) : Prog (Except Error (List DLQEntry)) := do
  match ← exec .dlqRange with
  | .error e => return .error ("failed to read DLQ: " ++ e)
  | .ok messages =>
    let messages := if count > 0 then messages.take count.toNat else messages
    return .ok (messages.map DLQEntry.ofMessage)

def remove (taskID : String) (messageID : Nat) : Prog (Option Error) := do
  match ← exec (.dlqDel messageID) with
  | .error e => return some ("failed to remove from DLQ stream: " ++ e)
  | .ok () =>
    let _ ← exec (.srem taskID)
    return none

/-- `Retry`: the first entry for the id is requeued and removed; the `messageID` argument is
not read. -/
def retry (q : RedisQueue) (taskID : String) (_messageID : Nat) : Prog (Option Error) := do
  match ← list 0 with
  | .error e => return some e
  | .ok entries =>
    match entries.find? (·.task.id = taskID) with
    | none => return some errTaskNotFound
    | some entry =>
      let now ← timeNow
      match StateMachine.requeue now entry.task with
      | (_, some e) => return some ("failed to requeue task: " ++ e)
      | (t, none) =>
        match ← q.enqueue t with
        | some e => return some ("failed to enqueue task: " ++ e)
        | none => remove taskID entry.messageID

def retryAll (q : RedisQueue) : Prog (Except Error Nat) := do
  match ← list 0 with
  | .error e => return .error e
  | .ok entries => go entries 0
where
  go : List DLQEntry → Nat → Prog (Except Error Nat)
  | [], n => return .ok n
  | e :: rest, n => do
    match ← retry q e.task.id e.messageID with
    | some _ => go rest n
    | none => go rest (n + 1)

def clear : Prog (Option Error) := do
  match ← exec .delDLQ with
  | .error e => return some ("failed to delete DLQ stream: " ++ e)
  | .ok () =>
    match ← exec .delDLQSet with
    | .error e => return some e
    | .ok () => return none

end TaskQueue.DLQ
