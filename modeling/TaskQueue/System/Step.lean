import TaskQueue.Worker.Pool
import TaskQueue.Api.Handlers
set_option autoImplicit false

namespace TaskQueue

open Prog Redis

/-- One deployment: the queue configuration shared by the API server, the scheduler and
every worker pool, the API's backpressure bound, and the task types the pools handle. -/
structure Config where
  queue : RedisQueue
  maxQueueSize : Int
  handlers : List String

def Config.pool (cfg : Config) (id : String) : Pool := ⟨id, cfg.queue, cfg.handlers⟩

def Config.default (handlers : List String) : Config :=
  ⟨⟨"tasks", "workers", 30 * Scheduler.second, 7⟩, 1000000, handlers⟩

/-- The entry points whose calls the system interleaves: the HTTP handlers, one iteration of a
worker fiber, one recovery tick, one scheduler tick. -/
inductive Call
  | create (id : String) (req : CreateTaskRequest)
  | cancel (taskID : String)
  | processNextTask (pool : String)
  | recoverOrphanedTasks (pool : String)
  | processDueTasks
  | retryTask (taskID : String)
  | retryDLQ (req : AdminHandler.RetryDLQRequest)
  | clearDLQ

def discard {α : Type} (p : Prog α) : Prog Unit := p.bind fun _ => .ret ()

def Call.prog (cfg : Config) : Call → Prog Unit
  | .create id req => discard (TaskHandler.create ⟨cfg.queue, cfg.maxQueueSize⟩ id req)
  | .cancel taskID => discard (TaskHandler.cancel ⟨cfg.queue, cfg.maxQueueSize⟩ taskID)
  | .processNextTask id => discard (cfg.pool id).processNextTask
  | .recoverOrphanedTasks id => (cfg.pool id).recoverOrphanedTasks
  | .processDueTasks => Scheduler.processDueTasks cfg.queue
  | .retryTask taskID => discard (AdminHandler.retryTask cfg.queue taskID)
  | .retryDLQ req => discard (AdminHandler.retryDLQ cfg.queue req)
  | .clearDLQ => discard AdminHandler.clearDLQ

/-- The system: the store, the procedures in flight, and as history the calls started and
the tasks handed to a handler. The entry points are of type `ι`. -/
structure Sys (ι : Type) where
  store : Store
  running : List (Prog Unit)
  calls : List ι
  executed : List Task

/-- One step of the system: a call starts, a procedure in flight takes its next effect (a store
command, which may fail without effect, the clock, a handler call) or crashes, or time passes. -/
inductive Step {ι : Type} (prog : ι → Prog Unit) : Sys ι → Sys ι → Prop
  | start (s : Sys ι) (c : ι) :
      Step prog s { s with running := s.running ++ [prog c], calls := s.calls ++ [c] }
  | finish (s : Sys ι) (i : Nat) (h : s.running[i]? = some (.ret ())) :
      Step prog s { s with running := s.running.eraseIdx i }
  | crash (s : Sys ι) (i : Nat) (h : i < s.running.length) :
      Step prog s { s with running := s.running.eraseIdx i }
  | redis (s : Sys ι) (i : Nat) {β : Type} (c : Cmd β) (k : Except Error β → Prog Unit)
      (h : s.running[i]? = some (.redis c k)) :
      Step prog s
        { s with store := (c.run s.store).2, running := s.running.set i (k (c.run s.store).1) }
  | fault (s : Sys ι) (i : Nat) {β : Type} (c : Cmd β) (k : Except Error β → Prog Unit)
      (h : s.running[i]? = some (.redis c k)) :
      Step prog s { s with running := s.running.set i (k (.error storeFailure)) }
  | time (s : Sys ι) (i : Nat) (k : Nat → Prog Unit) (h : s.running[i]? = some (.time k)) :
      Step prog s { s with running := s.running.set i (k s.store.clock) }
  | handler (s : Sys ι) (i : Nat) (t : Task) (k : Outcome → Prog Unit) (o : Outcome)
      (h : s.running[i]? = some (.handler t k)) :
      Step prog s { s with running := s.running.set i (k o), executed := s.executed ++ [t] }
  | tick (s : Sys ι) (n : Nat) :
      Step prog s { s with store := { s.store with clock := s.store.clock + n } }

/-- The store `NewRedisQueue` leaves: the four streams, each with the consumer group. -/
def Config.initialStore (cfg : Config) : Store :=
  (run (fun _ => .ok none) cfg.queue.initStreams ⟨Store.empty, [], []⟩).2.store

section Init

variable {q : RedisQueue} (h : Task → Outcome) (cs : List Task)

theorem run_initStreams_go :
    ∀ (ps : List Priority) (s : Store), (ps.map (·.streamName q.streamPrefix)).Nodup →
      (∀ p ∈ ps, s.streams (p.streamName q.streamPrefix) = none) →
      let w := (run h (RedisQueue.initStreams.go q ps) ⟨s, [], cs⟩).2
      w.store.nextId = s.nextId ∧
        (∀ p ∈ ps,
          w.store.lane (p.streamName q.streamPrefix) q.consumerGroup = some ([], ⟨0, []⟩)) ∧
        ∀ key, key ∉ ps.map (·.streamName q.streamPrefix) → w.store.streams key = s.streams key
  | [], s, _, _ => ⟨rfl, by simp, fun _ _ => rfl⟩
  | p :: ps, s, hnd, hs => by
    simp only [List.map_cons, List.nodup_cons] at hnd
    have hnone := hs p (.head _)
    let s₁ := s.setGroup (p.streamName q.streamPrefix) q.consumerGroup ⟨[], fun _ => none⟩ ⟨0, []⟩
    have hs₁ : ∀ p' ∈ ps, s₁.streams (p'.streamName q.streamPrefix) = none := fun p' hp' => by
      have hne : p'.streamName q.streamPrefix ≠ p.streamName q.streamPrefix :=
        fun he => hnd.1 (he ▸ List.mem_map_of_mem _ hp')
      simpa [s₁, Store.setGroup, Store.setStream, Function.update_noteq hne] using
        hs p' (.tail _ hp')
    obtain ⟨hid, hl, hk⟩ := run_initStreams_go ps s₁ hnd.2 hs₁
    simp only [RedisQueue.initStreams.go, bind_eq, run_exec_bind, Cmd.run, hnone, Option.getD_none]
    refine ⟨hid, fun p' hp' => ?_, fun key hkey => ?_⟩
    · rcases List.mem_cons.1 hp' with rfl | hp'
      · simp only [Store.lane, Store.group, hk _ hnd.1]
        simp [s₁, Store.setGroup, Store.setStream]
      · exact hl p' hp'
    · simp only [List.map_cons, List.mem_cons, not_or] at hkey
      rw [hk key hkey.2]
      simp [s₁, Store.setGroup, Store.setStream, Function.update_noteq hkey.1]

theorem run_initStreams_go_store :
    ∀ (ps : List Priority) (s : Store), ∃ streams,
      (run h (RedisQueue.initStreams.go q ps) ⟨s, [], cs⟩).2 =
        ⟨{ s with streams := streams }, [], cs⟩
  | [], s => ⟨s.streams, rfl⟩
  | p :: ps, s => by
    simp only [RedisQueue.initStreams.go, bind_eq, run_exec_bind, Cmd.run]
    cases hg : ((s.streams (p.streamName q.streamPrefix)).getD ⟨[], fun _ => none⟩).groups
      q.consumerGroup with
    | some g =>
      simp only [hg, ne_eq, not_true_eq_false, if_false]
      exact run_initStreams_go_store ps s
    | none =>
      simp only [hg]
      exact run_initStreams_go_store ps _

end Init

theorem Config.initialStore_eq (cfg : Config) :
    ∃ streams, cfg.initialStore = { Store.empty with streams := streams } := by
  obtain ⟨streams, he⟩ := run_initStreams_go_store (fun _ => .ok none) [] RedisQueue.priorities
    Store.empty
  exact ⟨streams, by rw [Config.initialStore, RedisQueue.initStreams, he]⟩

theorem Config.initialStore_lane (cfg : Config) (p : Priority) :
    cfg.initialStore.lane (p.streamName cfg.queue.streamPrefix) cfg.queue.consumerGroup =
      some ([], ⟨0, []⟩) :=
  (run_initStreams_go (fun _ => .ok none) [] RedisQueue.priorities Store.empty
    (RedisQueue.priorities_streamName_nodup _) fun _ _ => rfl).2.1 p
    (RedisQueue.priorities_complete p)

def Config.initial (cfg : Config) : Sys Call := ⟨cfg.initialStore, [], [], []⟩

def Reachable (cfg : Config) (s : Sys Call) : Prop :=
  Relation.ReflTransGen (Step (Call.prog cfg)) cfg.initial s

/-- A scheduling decision, to replay one concrete run. `run i o` lets procedure `i` take its
next effect, the handler answering `o`, and does nothing once there is no procedure `i`;
`fault i` fails its store command. -/
inductive Choice (ι : Type)
  | start (c : ι)
  | run (i : Nat) (o : Outcome)
  | fault (i : Nat)
  | crash (i : Nat)
  | tick (n : Nat)

def Choice.isTick {ι : Type} : Choice ι → Bool
  | .tick _ => true
  | _ => false

theorem Step.calls_grow {ι : Type} {prog : ι → Prog Unit} {s s' : Sys ι} (h : Step prog s s') :
    s.calls <+: s'.calls := by
  cases h
  · exact List.prefix_append _ _
  all_goals exact List.prefix_refl _

namespace Sys

variable {ι : Type} (prog : ι → Prog Unit)

def exec (s : Sys ι) : Choice ι → Option (Sys ι)
  | .start c => some { s with running := s.running ++ [prog c], calls := s.calls ++ [c] }
  | .run i o =>
    match s.running[i]? with
    | some (.redis c k) =>
      some { s with store := (c.run s.store).2, running := s.running.set i (k (c.run s.store).1) }
    | some (.time k) => some { s with running := s.running.set i (k s.store.clock) }
    | some (.handler t k) =>
      some { s with running := s.running.set i (k o), executed := s.executed ++ [t] }
    | some (.ret ()) => some { s with running := s.running.eraseIdx i }
    | none => some s
  | .fault i =>
    match s.running[i]? with
    | some (.redis _ k) => some { s with running := s.running.set i (k (.error storeFailure)) }
    | _ => none
  | .crash i =>
    if i < s.running.length then some { s with running := s.running.eraseIdx i } else none
  | .tick n => some { s with store := { s.store with clock := s.store.clock + n } }

def execAll : Sys ι → List (Choice ι) → Option (Sys ι)
  | s, [] => some s
  | s, c :: cs => (s.exec prog c).bind fun s' => s'.execAll cs

variable {prog}

theorem exec_step {s s' : Sys ι} {c : Choice ι} (h : s.exec prog c = some s') :
    s' = s ∨ Step prog s s' := by
  cases c with
  | start c => cases h; exact .inr (.start s c)
  | run i o =>
    simp only [exec] at h
    split at h <;> cases h
    · exact .inr (.redis s i _ _ ‹_›)
    · exact .inr (.time s i _ ‹_›)
    · exact .inr (.handler s i _ _ o ‹_›)
    · exact .inr (.finish s i ‹_›)
    · exact .inl rfl
  | fault i =>
    simp only [exec] at h
    split at h <;> cases h
    exact .inr (.fault s i _ _ ‹_›)
  | crash i =>
    simp only [exec] at h
    split at h <;> cases h
    exact .inr (.crash s i ‹_›)
  | tick n => cases h; exact .inr (.tick s n)

theorem exec_clock {s s' : Sys ι} {c : Choice ι} (h : s.exec prog c = some s')
    (hc : c.isTick = false) : s'.store.clock = s.store.clock := by
  cases c with
  | run i o =>
    simp only [exec] at h
    split at h <;> cases h <;> first | rfl | exact Cmd.clock_run ..
  | fault i =>
    simp only [exec] at h
    split at h <;> cases h
    rfl
  | crash i =>
    simp only [exec] at h
    split at h <;> cases h
    rfl
  | start c => cases h; rfl
  | tick n => cases hc

theorem exec_reach {s s' : Sys ι} {c : Choice ι} (h : s.exec prog c = some s') :
    Relation.ReflTransGen (Step prog) s s' := by
  rcases exec_step h with rfl | h
  · exact .refl
  · exact .single h

theorem execAll_reach :
    ∀ {s s' : Sys ι} {cs : List (Choice ι)}, s.execAll prog cs = some s' →
      Relation.ReflTransGen (Step prog) s s'
  | _, _, [], h => by cases h; exact .refl
  | s, _, c :: cs, h => by
    simp only [execAll, Option.bind_eq_some] at h
    obtain ⟨s₁, h₁, h₂⟩ := h
    exact (exec_reach h₁).trans (execAll_reach h₂)

theorem reach_of_replay {s₀ : Sys ι} (cs : List (Choice ι)) (p : Sys ι → Prop) [DecidablePred p]
    (h : (s₀.execAll prog cs).elim false (fun s => decide (p s)) = true) :
    ∃ s, Relation.ReflTransGen (Step prog) s₀ s ∧ p s := by
  cases e : s₀.execAll prog cs with
  | none => simp [e] at h
  | some s => exact ⟨s, execAll_reach e, by simpa [e] using h⟩

theorem reachable_of_replay {cfg : Config} (cs : List (Choice Call)) (p : Sys Call → Prop)
    [DecidablePred p]
    (h : (cfg.initial.execAll (Call.prog cfg) cs).elim false (fun s => decide (p s)) = true) :
    ∃ s, Reachable cfg s ∧ p s :=
  reach_of_replay cs p h

theorem reachable_of_replay_then {cfg : Config} (cs₁ cs₂ : List (Choice Call))
    (p : Sys Call → Sys Call → Prop) [∀ s₁ s₂, Decidable (p s₁ s₂)]
    (h : (cfg.initial.execAll (Call.prog cfg) cs₁).elim false
      (fun s₁ => (s₁.execAll (Call.prog cfg) cs₂).elim false fun s₂ => decide (p s₁ s₂)) = true) :
    ∃ s₁ s₂, Reachable cfg s₁ ∧ Relation.ReflTransGen (Step (Call.prog cfg)) s₁ s₂ ∧ p s₁ s₂ := by
  cases e₁ : cfg.initial.execAll (Call.prog cfg) cs₁ with
  | none => simp [e₁] at h
  | some s₁ =>
    cases e₂ : s₁.execAll (Call.prog cfg) cs₂ with
    | none => simp [e₁, e₂] at h
    | some s₂ => exact ⟨s₁, s₂, execAll_reach e₁, execAll_reach e₂, by simpa [e₁, e₂] using h⟩

end Sys

def Redis.Store.streamHolds (s : Store) (q : RedisQueue) (id : String) : Bool :=
  RedisQueue.priorities.any fun p =>
    match s.group (p.streamName q.streamPrefix) q.consumerGroup with
    | none => false
    | some (st, g) => st.entries.any fun e =>
      e.msg.taskId == id && (decide (g.lastDelivered < e.id) || g.pel.any (·.id == e.id))

/-- Some part of the system will still pick the task up: a live message or the scheduled index,
with the record there, or a DLQ entry. -/
def Redis.Store.recoverable (s : Store) (q : RedisQueue) (id : String) : Bool :=
  (s.getTask id).isSome && (s.streamHolds q id || s.scheduled.any (·.1 == id)) ||
    s.dlq.any (·.taskId == id)

namespace Runs

def boom : Outcome := .err "boom"

def steps (i n : Nat) : List (Choice Call) := List.replicate n (.run i boom)

def echo : Config := Config.default ["echo"]

def cancelled : List (Choice Call) :=
  [.start (.create "t1" ⟨"echo", 1, 0, none⟩)] ++ steps 0 8 ++ [.start (.cancel "t1")] ++ steps 0 4

def resurrected : List (Choice Call) :=
  [.start (.processNextTask "w1")] ++ steps 0 4 ++
    [.tick (30 * Scheduler.second), .start (.recoverOrphanedTasks "w2")] ++ steps 0 12 ++
    [.start (.processNextTask "w3")] ++ steps 0 6

theorem cancelled_task_runs_again :
    ∃ s₁ s₂, Reachable echo s₁ ∧ Relation.ReflTransGen (Step (Call.prog echo)) s₁ s₂ ∧
      (s₁.store.getTask "t1").map (·.state) = some .cancelled ∧ s₁.executed = [] ∧
      (s₂.store.getTask "t1").map (·.state) = some .running ∧ s₂.executed.map (·.id) = ["t1"] :=
  Sys.reachable_of_replay_then cancelled resurrected _ (by decide)

def lostRetry : List (Choice Call) :=
  [.start (.create "t1" ⟨"echo", 1, 0, none⟩)] ++ steps 0 8 ++
    [.start (.processNextTask "w1")] ++ steps 0 8 ++ [.fault 0] ++ steps 0 2

theorem failed_requeue_loses_task :
    ∃ s, Reachable echo s ∧ s.running.isEmpty ∧
      (s.store.getTask "t1").map (·.state) = some .retrying ∧ s.store.recoverable echo.queue "t1" = false :=
  Sys.reachable_of_replay lostRetry _ (by decide)

def deadLettered : List (Choice Call) :=
  [.start (.create "t1" ⟨"echo", 1, 1, none⟩)] ++ steps 0 8 ++
    [.start (.processNextTask "w1")] ++ steps 0 12

theorem dlq_member_persisted_failed :
    ∃ s, Reachable echo s ∧ s.running.isEmpty ∧ s.store.dlqSet = ["t1"] ∧
      s.store.dlq.map (·.taskId) = ["t1"] ∧ (s.store.getTask "t1").map (·.state) = some .failed :=
  Sys.reachable_of_replay deadLettered _ (by decide)

def crashRound (w : String) : List (Choice Call) :=
  [.start (.processNextTask w)] ++ steps 0 4 ++
    [.crash 0, .tick (30 * Scheduler.second), .start (.recoverOrphanedTasks "r")] ++ steps 0 11

def crashLoop : List (Choice Call) :=
  [.start (.create "t1" ⟨"echo", 1, 1, none⟩)] ++ steps 0 8 ++ crashRound "w1" ++
    crashRound "w2" ++ [.start (.processNextTask "w3")] ++ steps 0 4

theorem attempts_exceed_budget :
    ∃ s, Reachable echo s ∧ ∃ t, s.store.getTask "t1" = some t ∧
      0 ≤ t.maxRetries ∧ t.maxRetries + 1 < t.attempts :=
  Sys.reachable_of_replay crashLoop _ (by decide)

end Runs

end TaskQueue
