import TaskQueue.Store.Prog
set_option autoImplicit false

namespace TaskQueue.Worker

/-- `WorkerInfo`, the record a heartbeat keeps for its worker as `json.Marshal` writes it
(`Version` is never set). -/
structure WorkerInfo where
  id : String
  state : String
  startedAt : Nat
  lastHeartbeat : Nat
  activeTasks : Int
  concurrency : Int
  deriving DecidableEq, Repr

/-- A record that says what `NewHeartbeat` wrote: `UpdateState`, `UpdateActiveTasks` and
`UpdateConcurrency` are never called, so these three fields keep their initial values. -/
def WorkerInfo.Idle (wi : WorkerInfo) : Prop :=
  wi.state = "idle" ∧ wi.activeTasks = 0 ∧ wi.concurrency = 0

def workerKeyPrefix : String := "worker:"

def heartbeatKeySuffix : String := ":heartbeat"

def workerInfoKeySuffix : String := ":info"

def heartbeatKey (workerID : String) : String := workerKeyPrefix ++ workerID ++ heartbeatKeySuffix

def infoKey (workerID : String) : String := workerKeyPrefix ++ workerID ++ workerInfoKeySuffix

def pauseKey (workerID : String) : String := workerKeyPrefix ++ workerID ++ ":paused"

inductive Value
  | unix (secs : Nat)
  | info (w : WorkerInfo)
  | str (s : String)
  deriving DecidableEq, Repr

/-- The registry's part of Redis: each string key with its value and its expiry time (`none` for a
key set without expiration), the members of `workers:active`, and the clock in nanoseconds. -/
structure Store where
  keys : String → Option (Value × Option Nat)
  active : List String
  clock : Nat

namespace Store

def empty : Store := ⟨fun _ => none, [], 0⟩

def live (s : Store) (key : String) : Option Value :=
  match s.keys key with
  | some (v, none) => some v
  | some (v, some e) => if s.clock < e then some v else none
  | none => none

def «exists» (s : Store) (key : String) : Nat := if (s.live key).isSome then 1 else 0

/-- `SET key v` with expiration `ttl`; go-redis sends no expiry for a zero `ttl`. -/
def set (s : Store) (key : String) (v : Value) (ttl : Nat) : Store :=
  { s with keys := Function.update s.keys key (some (v, if ttl = 0 then none else some (s.clock + ttl))) }

def del (s : Store) (keys : List String) : Store :=
  { s with keys := fun k => if k ∈ keys then none else s.keys k }

def sadd (s : Store) (member : String) : Store := { s with active := s.active.insert member }

def srem (s : Store) (member : String) : Store := { s with active := s.active.erase member }

def tick (s : Store) (d : Nat) : Store := { s with clock := s.clock + d }

end Store

/-- The commands the registry code sends through go-redis. A missing key answers `GET` with
`none` (go-redis: `redis.Nil`). -/
inductive Cmd : Type → Type
  | «exists» (key : String) : Cmd Nat
  | get (key : String) : Cmd (Option Value)
  | set (key : String) (v : Value) (ttl : Nat) : Cmd Unit
  | del (keys : List String) : Cmd Unit
  | sadd (member : String) : Cmd Unit
  | srem (member : String) : Cmd Unit
  | smembers : Cmd (List String)

def Cmd.run : {β : Type} → Cmd β → Store → β × Store
  | _, .exists key, s => (s.exists key, s)
  | _, .get key, s => (s.live key, s)
  | _, .set key v ttl, s => ((), s.set key v ttl)
  | _, .del keys, s => ((), s.del keys)
  | _, .sadd m, s => ((), s.sadd m)
  | _, .srem m, s => ((), s.srem m)
  | _, .smembers, s => (s.active, s)

/-- A procedure of `heartbeat.go` or of the worker endpoints: the store commands it sends, each
carrying the rest of the procedure, which reads the command's answer or its error. -/
inductive Script (α : Type) : Type 1
  | ret (a : α)
  | cmd {β : Type} (c : Cmd β) (k : Except Error β → Script α)

namespace Script

def bind {α β : Type} : Script α → (α → Script β) → Script β
  | ret a, f => f a
  | cmd c k, f => cmd c fun r => (k r).bind f

instance : Monad Script where
  pure := ret
  bind := bind

def exec {β : Type} (c : Cmd β) : Script (Except Error β) := cmd c ret

/-- Runs a procedure against the store; the `i`-th command fails when `faults[i]` is `true`. -/
def run {α : Type} : Script α → List Bool → Store → α × Store
  | ret a, _, s => (a, s)
  | cmd c k, faults, s =>
    if faults.head? = some true then run (k (.error Prog.storeFailure)) faults.tail s
    else run (k (.ok (c.run s).1)) faults.tail (c.run s).2

@[simp] theorem pure_eq {α : Type} (a : α) : (pure a : Script α) = ret a := rfl

@[simp] theorem bind_eq {α β : Type} (p : Script α) (f : α → Script β) : p >>= f = p.bind f := rfl

@[simp] theorem ret_bind {α β : Type} (a : α) (f : α → Script β) : (ret a).bind f = f a := rfl

theorem run_exec_bind {α β : Type} (c : Cmd β) (f : Except Error β → Script α) (faults : List Bool)
    (s : Store) : ((exec c).bind f).run faults s =
      if faults.head? = some true then (f (.error Prog.storeFailure)).run faults.tail s
      else (f (.ok (c.run s).1)).run faults.tail (c.run s).2 := rfl

theorem run_bind {α β : Type} (p : Script α) (f : α → Script β) (faults : List Bool) (s : Store) :
    ∃ faults', (p.bind f).run faults s = (f (p.run faults s).1).run faults' (p.run faults s).2 := by
  induction p generalizing faults s with
  | ret a => exact ⟨faults, rfl⟩
  | cmd c k ih => simp only [bind, run]; split <;> exact ih _ _ _

theorem run_bind_ret {α β : Type} (p : Script α) (g : α → β) (faults : List Bool) (s : Store) :
    (p.bind fun a => ret (g a)).run faults s = (g (p.run faults s).1, (p.run faults s).2) := by
  induction p generalizing faults s with
  | ret a => rfl
  | cmd c k ih => simp only [bind, run]; split <;> exact ih _ _ _

inductive Sends (P : {β : Type} → Cmd β → Prop) : {α : Type} → Script α → Prop
  | ret {α : Type} (a : α) : Sends P (ret a)
  | cmd {α β : Type} {c : Cmd β} {k : Except Error β → Script α} :
      P c → (∀ r, Sends P (k r)) → Sends P (cmd c k)

variable {P : {β : Type} → Cmd β → Prop}

theorem Sends.bind {α β : Type} {p : Script α} {f : α → Script β} (hp : Sends P p)
    (hf : ∀ a, Sends P (f a)) : Sends P (p.bind f) := by
  induction hp with
  | ret a => exact hf a
  | cmd hc _ ih => exact .cmd hc ih

theorem Sends.exec_bind {α β : Type} {c : Cmd β} {f : Except Error β → Script α} (hc : P c)
    (hf : ∀ r, Sends P (f r)) : Sends P ((exec c).bind f) := .cmd hc hf

theorem Sends.run {α : Type} {R : Store → Store → Prop} (hrefl : ∀ s, R s s)
    (htrans : ∀ s₁ s₂ s₃, R s₁ s₂ → R s₂ s₃ → R s₁ s₃)
    (hcmd : ∀ {β : Type} (c : Cmd β), P c → ∀ s, R s (c.run s).2) {p : Script α} (hp : Sends P p) :
    ∀ faults s, R s (p.run faults s).2 := by
  induction hp with
  | ret a => exact fun _ s => hrefl s
  | cmd hc _ ih =>
    intro faults s
    simp only [Script.run]
    split
    · exact ih _ _ _
    · exact htrans _ _ _ (hcmd _ hc s) (ih _ _ _)

end Script

open Script

/-- The loop of `GetActiveWorkers` over the members of `workers:active`: a member whose record
has expired is removed from the set, one whose read fails or does not decode is skipped. -/
def collectWorkers : List String → Script (List WorkerInfo)
  | [] => return []
  | id :: ids => do
    match ← exec (.get (infoKey id)) with
    | .ok none =>
      let _ ← exec (.srem id)
      collectWorkers ids
    | .ok (some (.info info)) => return info :: (← collectWorkers ids)
    | _ => collectWorkers ids

def getActiveWorkers : Script (Except Error (List WorkerInfo)) := do
  match ← exec .smembers with
  | .error err => return .error ("failed to get active workers: " ++ err)
  | .ok workerIDs => return .ok (← collectWorkers workerIDs)

/-- `IsWorkerAlive` and `IsWorkerPaused`: whether `key` exists, or the error wrapped in `what`. -/
def keyExists (key what : String) : Script (Except Error Bool) := do
  match ← exec (.exists key) with
  | .error err => return .error (what ++ ": " ++ err)
  | .ok n => return .ok (decide (n > 0))

def isWorkerAlive (workerID : String) : Script (Except Error Bool) :=
  keyExists (workerKeyPrefix ++ workerID ++ heartbeatKeySuffix) "failed to check worker heartbeat"

def isWorkerPaused (workerID : String) : Script (Except Error Bool) :=
  keyExists (workerKeyPrefix ++ workerID ++ ":paused") "failed to check worker pause status"

inductive WorkerReply
  | error (status : Nat) (message : String)
  | json (status : Nat) (fields : List (String × String))
  | worker (status : Nat) (info : WorkerInfo)
  | workers (status : Nat) (workers : List WorkerInfo) (count : Nat)
  deriving DecidableEq, Repr

def listWorkers : Script WorkerReply := do
  match ← getActiveWorkers with
  | .error _ => return .error 500 "failed to get workers"
  | .ok workers => return .workers 200 workers workers.length

def getWorker (workerID : String) : Script WorkerReply := do
  if workerID = "" then return .error 400 "worker ID is required"
  match ← isWorkerAlive workerID with
  | .error _ => return .error 500 "failed to get worker"
  | .ok false => return .error 404 "worker not found or not active"
  | .ok true =>
    match ← getActiveWorkers with
    | .error _ => return .error 500 "failed to get worker details"
    | .ok workers =>
      match workers.find? (·.id = workerID) with
      | some wk => return .worker 200 wk
      | none => return .error 404 "worker not found"

/-- `AdminHandler.PauseWorker` and `ResumeWorker`: check that the worker is alive, then send
`write` for its pause key; `failMsg` and `okMsg` are the texts in which the two differ. -/
def setPauseFlag (workerID : String) (write : Cmd Unit) (failMsg okMsg : String) :
    Script WorkerReply := do
  if workerID = "" then return .error 400 "worker ID is required"
  match ← isWorkerAlive workerID with
  | .error _ => return .error 500 "failed to check worker status"
  | .ok false => return .error 404 "worker not found or not active"
  | .ok true =>
    match ← exec write with
    | .error _ => return .error 500 failMsg
    | .ok () => return .json 200 [("message", okMsg), ("worker_id", workerID)]

def pauseWorker (workerID : String) : Script WorkerReply :=
  setPauseFlag workerID (.set ("worker:" ++ workerID ++ ":paused") (.str "1") 0)
    "failed to pause worker" "worker paused"

def resumeWorker (workerID : String) : Script WorkerReply :=
  setPauseFlag workerID (.del ["worker:" ++ workerID ++ ":paused"])
    "failed to resume worker" "worker resumed"


/-! ## Keys

The registry's keys are built by concatenation. Keys of one kind are equal only for equal ids,
and keys of different kinds never coincide: their suffixes end in different characters. -/

theorem key_injective {a b sfx : String}
    (h : workerKeyPrefix ++ a ++ sfx = workerKeyPrefix ++ b ++ sfx) : a = b := by
  have := congrArg String.data h
  simp only [String.data_append, List.append_cancel_right_eq, List.append_cancel_left_eq] at this
  exact String.ext this

theorem key_ne {a b sfx sfx' : String} (hs : sfx.data.getLast?.isSome) (hs' : sfx'.data.getLast?.isSome)
    (h : sfx.data.getLast? ≠ sfx'.data.getLast?) :
    workerKeyPrefix ++ a ++ sfx ≠ workerKeyPrefix ++ b ++ sfx' := by
  intro he
  have := congrArg (fun k => k.data.getLast?) he
  simp only [String.data_append, List.getLast?_append] at this
  rw [Option.or_of_isSome hs, Option.or_of_isSome hs'] at this
  exact h this

theorem heartbeatKey_inj {a b : String} : heartbeatKey a = heartbeatKey b ↔ a = b :=
  ⟨key_injective, congrArg _⟩

theorem heartbeatKey_ne_infoKey (a b : String) : heartbeatKey a ≠ infoKey b :=
  key_ne (by decide) (by decide) (by decide)

theorem heartbeatKey_ne_pauseKey (a b : String) : heartbeatKey a ≠ pauseKey b :=
  key_ne (by decide) (by decide) (by decide)

theorem pauseKey_eq (workerID : String) : "worker:" ++ workerID ++ ":paused" = pauseKey workerID :=
  rfl

/-! ## The store -/

namespace Store

variable (s : Store) {key k : String}

@[simp] theorem set_keys (v : Value) (ttl : Nat) : (s.set key v ttl).keys k =
    if k = key then some (v, if ttl = 0 then none else some (s.clock + ttl)) else s.keys k := by
  simp [set, Function.update_apply]

@[simp] theorem set_clock (v : Value) (ttl : Nat) : (s.set key v ttl).clock = s.clock := rfl

@[simp] theorem set_active (v : Value) (ttl : Nat) : (s.set key v ttl).active = s.active := rfl

@[simp] theorem del_keys (keys : List String) : (s.del keys).keys k = if k ∈ keys then none else s.keys k :=
  rfl

@[simp] theorem del_clock (keys : List String) : (s.del keys).clock = s.clock := rfl

@[simp] theorem sadd_keys (m : String) : (s.sadd m).keys = s.keys := rfl

@[simp] theorem sadd_clock (m : String) : (s.sadd m).clock = s.clock := rfl

@[simp] theorem srem_keys (m : String) : (s.srem m).keys = s.keys := rfl

@[simp] theorem srem_clock (m : String) : (s.srem m).clock = s.clock := rfl

@[simp] theorem tick_keys (d : Nat) : (s.tick d).keys = s.keys := rfl

@[simp] theorem tick_clock (d : Nat) : (s.tick d).clock = s.clock + d := rfl

theorem live_eq_some {v : Value} (h : s.live key = some v) : ∃ e, s.keys key = some (v, e) := by
  unfold live at h
  split at h
  · rename_i hk; cases h; exact ⟨_, hk⟩
  · rename_i hk; split at h
    · cases h; exact ⟨_, hk⟩
    · cases h
  · cases h

@[simp] theorem exists_pos : 0 < s.exists key ↔ s.live key ≠ none := by
  unfold Store.exists
  cases s.live key <;> simp

end Store

/-! ## What the procedures do to the store -/

theorem run_keyExists (key what : String) (faults : List Bool) (s : Store) :
    (keyExists key what).run faults s =
      (if faults.head? = some true then .error (what ++ ": " ++ Prog.storeFailure)
        else .ok (decide (0 < s.exists key)), s) := by
  simp only [keyExists, bind_eq, run_exec_bind]
  split <;> rfl

/-- `s'` is `s` with at most its pause keys and the members of `workers:active` changed, a
pause key holding `"1"` without expiry or nothing. -/
structure AdminFrame (s s' : Store) : Prop where
  clock : s'.clock = s.clock
  keys : ∀ k, s'.keys k = s.keys k ∨
    ∃ w, k = pauseKey w ∧ (s'.keys k = none ∨ s'.keys k = some (.str "1", none))

theorem AdminFrame.refl (s : Store) : AdminFrame s s := ⟨rfl, fun _ => .inl rfl⟩

theorem AdminFrame.trans {s₁ s₂ s₃ : Store} (h₁ : AdminFrame s₁ s₂) (h₂ : AdminFrame s₂ s₃) :
    AdminFrame s₁ s₃ := by
  refine ⟨h₂.clock.trans h₁.clock, fun k => ?_⟩
  rcases h₂.keys k with h | h
  · rw [h]; exact h₁.keys k
  · exact .inr h

def AdminCmd {β : Type} (c : Cmd β) : Prop := ∀ s, AdminFrame s (c.run s).2

theorem adminCmd_read {β : Type} {c : Cmd β} (h : ∀ s, (c.run s).2 = s) : AdminCmd c := fun s => by
  rw [h]; exact .refl s

theorem adminCmd_srem (m : String) : AdminCmd (.srem m) := fun _ => ⟨rfl, fun _ => .inl rfl⟩

theorem adminCmd_pause (w : String) : AdminCmd (.set ("worker:" ++ w ++ ":paused") (.str "1") 0) :=
  fun s => ⟨rfl, fun k => by
    by_cases hk : k = pauseKey w
    · exact .inr ⟨w, hk, .inr (by simp [Cmd.run, hk, pauseKey_eq])⟩
    · exact .inl (by simp [Cmd.run, hk, pauseKey_eq])⟩

theorem adminCmd_resume (w : String) : AdminCmd (.del ["worker:" ++ w ++ ":paused"]) :=
  fun s => ⟨rfl, fun k => by
    by_cases hk : k = pauseKey w
    · exact .inr ⟨w, hk, .inl (by simp [Cmd.run, hk, pauseKey_eq])⟩
    · exact .inl (by simp [Cmd.run, hk, pauseKey_eq])⟩

theorem sends_keyExists (key what : String) : Sends AdminCmd (keyExists key what) :=
  Sends.exec_bind (adminCmd_read fun _ => rfl) fun r => by cases r <;> exact .ret _

theorem sends_collectWorkers : ∀ ids, Sends AdminCmd (collectWorkers ids)
  | [] => .ret _
  | id :: ids => Sends.exec_bind (adminCmd_read fun _ => rfl) fun r => by
    rcases r with _ | _ | _ | _ | _
    · exact sends_collectWorkers ids
    · exact Sends.exec_bind (adminCmd_srem id) fun _ => sends_collectWorkers ids
    · exact sends_collectWorkers ids
    · exact (sends_collectWorkers ids).bind fun _ => .ret _
    · exact sends_collectWorkers ids

theorem sends_getActiveWorkers : Sends AdminCmd getActiveWorkers :=
  Sends.exec_bind (adminCmd_read fun _ => rfl) fun r => by
    cases r
    · exact .ret _
    · exact (sends_collectWorkers _).bind fun _ => .ret _

theorem sends_listWorkers : Sends AdminCmd listWorkers :=
  sends_getActiveWorkers.bind fun r => by cases r <;> exact .ret _

theorem sends_getWorker (workerID : String) : Sends AdminCmd (getWorker workerID) := by
  simp only [getWorker, bind_eq, pure_eq, ret_bind]
  split
  · exact .ret _
  · refine (sends_keyExists _ _).bind fun r => ?_
    rcases r with _ | ⟨_ | _⟩
    · exact .ret _
    · exact .ret _
    · refine sends_getActiveWorkers.bind fun r => ?_
      rcases r with _ | ws
      · exact .ret _
      · dsimp only
        split <;> exact .ret _

theorem sends_setPauseFlag (workerID : String) {write : Cmd Unit} (hw : AdminCmd write)
    (failMsg okMsg : String) : Sends AdminCmd (setPauseFlag workerID write failMsg okMsg) := by
  simp only [setPauseFlag, bind_eq, pure_eq, ret_bind]
  split
  · exact .ret _
  · refine (sends_keyExists _ _).bind fun r => ?_
    rcases r with _ | ⟨_ | _⟩
    · exact .ret _
    · exact .ret _
    · exact Sends.exec_bind hw fun r => by rcases r with _ | _ <;> exact .ret _

theorem AdminFrame.of_sends {α : Type} {p : Script α} (hp : Sends AdminCmd p) (faults : List Bool)
    (s : Store) : AdminFrame s (p.run faults s).2 :=
  hp.run AdminFrame.refl (fun _ _ _ => AdminFrame.trans) (fun _ hc => hc) faults s

theorem collectWorkers_live : ∀ (ids : List String) (faults : List Bool) (s : Store) {wi : WorkerInfo},
    wi ∈ ((collectWorkers ids).run faults s).1 → ∃ id, s.live (infoKey id) = some (.info wi)
  | [], _, _, _, h => by simp [collectWorkers, Script.run] at h
  | id :: ids, faults, s, wi, h => by
    simp only [collectWorkers, bind_eq, pure_eq, run_exec_bind] at h
    split at h
    · exact collectWorkers_live ids _ _ h
    · simp only [Cmd.run] at h
      rcases hv : s.live (infoKey id) with _ | ⟨_ | info | _⟩ <;> simp only [hv] at h
      · rw [run_exec_bind] at h
        split at h
        · exact collectWorkers_live ids _ _ h
        · exact collectWorkers_live ids _ (s.srem id) h
      · exact collectWorkers_live ids _ _ h
      · rw [run_bind_ret] at h
        rcases List.mem_cons.1 h with rfl | h
        · exact ⟨id, hv⟩
        · exact collectWorkers_live ids _ _ h
      · exact collectWorkers_live ids _ _ h

theorem getActiveWorkers_live (faults : List Bool) (s : Store) {ws : List WorkerInfo}
    (h : (getActiveWorkers.run faults s).1 = .ok ws) :
    ∀ wi ∈ ws, ∃ id, s.live (infoKey id) = some (.info wi) := by
  simp only [getActiveWorkers, bind_eq, pure_eq, run_exec_bind] at h
  split at h
  · cases h
  · rw [run_bind_ret] at h
    cases h
    exact fun _ hwi => collectWorkers_live _ _ _ hwi

theorem listWorkers_live {faults : List Bool} {s : Store} {ws : List WorkerInfo} {n : Nat}
    (h : (listWorkers.run faults s).1 = .workers 200 ws n) :
    ∀ wi ∈ ws, ∃ id, s.live (infoKey id) = some (.info wi) := by
  obtain ⟨faults', hrun⟩ := run_bind getActiveWorkers _ faults s
  simp only [listWorkers, bind_eq, pure_eq] at h
  rw [hrun] at h
  rcases hg : getActiveWorkers.run faults s with ⟨_ | ws', s'⟩ <;> simp only [hg] at h
  · cases h
  · cases h
    exact getActiveWorkers_live faults s (congrArg Prod.fst hg)

theorem getWorker_live {w : String} {faults : List Bool} {s : Store} {wi : WorkerInfo}
    (h : ((getWorker w).run faults s).1 = .worker 200 wi) :
    ∃ id, s.live (infoKey id) = some (.info wi) := by
  simp only [getWorker, bind_eq, pure_eq, ret_bind] at h
  split_ifs at h
  · cases h
  · obtain ⟨f₁, h₁⟩ := run_bind (isWorkerAlive w) _ faults s
    rw [h₁, isWorkerAlive, run_keyExists] at h
    split_ifs at h
    · cases h
    · cases hd : decide (0 < s.exists (workerKeyPrefix ++ w ++ heartbeatKeySuffix)) <;>
        simp only [hd] at h
      · cases h
      · obtain ⟨f₂, h₂⟩ := run_bind getActiveWorkers _ f₁ s
        rw [h₂] at h
        rcases hg : getActiveWorkers.run f₁ s with ⟨_ | ws, s'⟩ <;> simp only [hg] at h
        · cases h
        · split at h
          · rename_i wk hwk
            cases h
            exact getActiveWorkers_live f₁ s (congrArg Prod.fst hg) _ (List.mem_of_find?_eq_some hwk)
          · cases h

end TaskQueue.Worker
