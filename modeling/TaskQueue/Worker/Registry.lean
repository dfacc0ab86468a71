import TaskQueue.Worker.Heartbeat
import Mathlib.Logic.Relation
set_option autoImplicit false

/-!
# The worker registry

Worker processes, each a pool with its heartbeat goroutine, the `register` of its start, the
`deregister` of its `Stop` and its worker goroutines, interleaved with admin requests, crashes
and time, over the registry keys of one Redis (`heartbeat.go`, `pool.go`, the worker endpoints
of `admin.go`). Each goroutine takes one store command per step; a command may fail.
-/

namespace TaskQueue.Registry

open Worker Script

structure WorkerConfig where
  concurrency : Nat
  heartbeatTimeout : Nat
  deriving DecidableEq, Repr

def WorkerConfig.default : WorkerConfig := ⟨10, 15 * 1000000000⟩

inductive BeatPc
  | setBeat
  | setInfo (data : WorkerInfo)
  | addActive
  | select
  | done
  deriving DecidableEq, Repr

inductive RegPc
  | addActive
  | setInfo (data : WorkerInfo)
  | done
  deriving DecidableEq, Repr

inductive StopPc
  | running
  | waitWorkers
  | waitBeat
  | removeActive
  | delKeys
  | done
  deriving DecidableEq, Repr

/-- Where a goroutine of `Pool.worker` is in its loop: at the stop check, at the remote pause
check, asleep for a second after finding the pause flag, acquiring a slot of `concurrencySem`,
in `processNextTask`, or returned. -/
inductive FiberPc
  | top
  | remote
  | sleep
  | acquire
  | busy
  | done
  deriving DecidableEq, Repr

structure Fiber where
  pc : FiberPc
  claims : Nat
  deriving DecidableEq, Repr

/-- A worker process: its id, its heartbeat's `info`, its goroutines, the slots taken in
`concurrencySem`, whether it crashed, and the times of its heartbeats that reached Redis. -/
structure Pool where
  id : String
  info : WorkerInfo
  beat : BeatPc
  beats : List Nat
  reg : RegPc
  stop : StopPc
  fibers : List Fiber
  held : Nat
  crashed : Bool
  deriving DecidableEq, Repr

inductive Goroutine
  | beat
  | register
  | stop
  | fiber (j : Nat)
  deriving DecidableEq, Repr

namespace Pool

/-- `NewPool` followed by `Start` at time `now`: `NewHeartbeat`'s record, the heartbeat loop
about to send its first heartbeat, `register` about to run; the workers start once `register`
returns. -/
def new (id : String) (now : Nat) : Pool :=
  ⟨id, ⟨id, "idle", now, 0, 0, 0⟩, .setBeat, [], .addActive, .running, [], 0, false⟩

def running (p : Pool) : Bool := !p.crashed && p.stop != .done

def stopping (p : Pool) : Bool := p.stop != .running

def beatStopping (p : Pool) : Bool := p.stop != .running && p.stop != .waitWorkers

def setFiber (p : Pool) (j : Nat) (f : Fiber) : Pool := { p with fibers := p.fibers.set j f }

/-- `paused, _ := IsWorkerPaused(...)`: an error reads as not paused. -/
def pausedFlag (r : Except Error Bool) : Bool :=
  match r with
  | .ok b => b
  | .error _ => false

/-- One step of goroutine `g` of `p` against the store `s`, the store command the step sends
succeeding when `ok`; `none` when `g` cannot move. -/
def step (cfg : WorkerConfig) (p : Pool) (s : Store) : Goroutine → Bool → Option (Pool × Store)
  | .beat, ok =>
    match p.beat with
    | .setBeat =>
      if ok then
        let info := { p.info with lastHeartbeat := s.clock }
        some ({ p with info := info, beat := .setInfo info, beats := p.beats ++ [s.clock] },
          s.set (heartbeatKey p.id) (.unix (s.clock / 1000000000)) cfg.heartbeatTimeout)
      else some ({ p with beat := .select }, s)
    | .setInfo data =>
      some ({ p with beat := .addActive },
        if ok then s.set (infoKey p.id) (.info data) (cfg.heartbeatTimeout * 2) else s)
    | .addActive => some ({ p with beat := .select }, if ok then s.sadd p.id else s)
    | .select => some ({ p with beat := .setBeat }, s)
    | .done => none
  | .register, ok =>
    match p.reg with
    | .addActive =>
      let info := { p.info with startedAt := s.clock }
      some ({ p with info := info, reg := .setInfo info }, if ok then s.sadd p.id else s)
    | .setInfo data =>
      some ({ p with reg := .done, fibers := List.replicate cfg.concurrency ⟨.top, 0⟩ },
        if ok then s.set (infoKey p.id) (.info data) (cfg.heartbeatTimeout * 2) else s)
    | .done => none
  | .stop, ok =>
    match p.stop with
    | .running => if p.reg = .done then some ({ p with stop := .waitWorkers }, s) else none
    | .waitWorkers => some ({ p with stop := .waitBeat }, s)
    | .waitBeat => if p.beat = .done then some ({ p with stop := .removeActive }, s) else none
    | .removeActive => some ({ p with stop := .delKeys }, if ok then s.srem p.id else s)
    | .delKeys =>
      some ({ p with stop := .done }, if ok then s.del [heartbeatKey p.id, infoKey p.id] else s)
    | .done => none
  | .fiber j, ok =>
    match p.fibers[j]? with
    | none => none
    | some f =>
      match f.pc with
      | .top => some (p.setFiber j { f with pc := if p.stopping then .done else .remote }, s)
      | .remote =>
        let paused := pausedFlag ((isWorkerPaused p.id).run [!ok] s).1
        some (p.setFiber j { f with pc := if paused then .sleep else .acquire }, s)
      | .sleep => some (p.setFiber j { f with pc := .top }, s)
      | .acquire =>
        if p.held < cfg.concurrency then
          some ({ p.setFiber j ⟨.busy, f.claims + 1⟩ with held := p.held + 1 }, s)
        else none
      | .busy => some ({ p.setFiber j { f with pc := .top } with held := p.held - 1 }, s)
      | .done => none

def leave (p : Pool) : Goroutine → Option Pool
  | .beat => if p.beat = .select ∧ p.beatStopping then some { p with beat := .done } else none
  | .fiber j =>
    match p.fibers[j]? with
    | some f =>
      if (f.pc = .sleep ∨ f.pc = .acquire) ∧ p.stopping then
        some (p.setFiber j { f with pc := .done })
      else none
    | none => none
  | _ => none

end Pool

inductive AdminReq
  | listWorkers
  | getWorker (workerID : String)
  | pauseWorker (workerID : String)
  | resumeWorker (workerID : String)
  deriving DecidableEq, Repr

def AdminReq.script : AdminReq → Script WorkerReply
  | .listWorkers => Worker.listWorkers
  | .getWorker w => Worker.getWorker w
  | .pauseWorker w => Worker.pauseWorker w
  | .resumeWorker w => Worker.resumeWorker w

/-- The registry keys of Redis and the worker processes started so far. -/
structure Sys where
  store : Store
  pools : List Pool

inductive Act
  | start (id : String)
  | crash (i : Nat)
  | tick (d : Nat)
  | admin (r : AdminReq) (faults : List Bool)
  | run (i : Nat) (g : Goroutine) (ok : Bool)
  | leave (i : Nat) (g : Goroutine)
  deriving DecidableEq, Repr

namespace Sys

def init : Sys := ⟨Store.empty, []⟩

def step (cfg : WorkerConfig) (s : Sys) : Act → Option Sys
  | .start id => some { s with pools := s.pools ++ [Pool.new id s.store.clock] }
  | .crash i =>
    match s.pools[i]? with
    | some p =>
      if p.running then some { s with pools := s.pools.set i { p with crashed := true } } else none
    | none => none
  | .tick d => some { s with store := s.store.tick d }
  | .admin r faults => some { s with store := (r.script.run faults s.store).2 }
  | .run i g ok =>
    match s.pools[i]? with
    | some p =>
      if p.running then (p.step cfg s.store g ok).map fun r => ⟨r.2, s.pools.set i r.1⟩ else none
    | none => none
  | .leave i g =>
    match s.pools[i]? with
    | some p =>
      if p.running then (p.leave g).map fun p' => { s with pools := s.pools.set i p' } else none
    | none => none

def Next (cfg : WorkerConfig) (s s' : Sys) : Prop := ∃ a, s.step cfg a = some s'

def Reachable (cfg : WorkerConfig) (s : Sys) : Prop := Relation.ReflTransGen (Next cfg) init s

end Sys

/-! ## The invariant -/

theorem mem_set_of_mem {α : Type} {l : List α} {i : Nat} {p q : α} (p' : α) (hq : q ∈ l)
    (hi : l[i]? = some p) : q ∈ l.set i p' ∨ q = p := by
  obtain ⟨n, hn⟩ := List.mem_iff_getElem?.1 hq
  by_cases h : i = n
  · subst h; exact .inr (Option.some.inj (hn.symm.trans hi))
  · exact .inl (List.mem_iff_getElem?.2 ⟨n, by rw [List.getElem?_set_ne h, hn]⟩)

theorem mem_of_getElem? {α : Type} {l : List α} {i : Nat} {p : α} (h : l[i]? = some p) : p ∈ l :=
  List.mem_iff_getElem?.2 ⟨i, h⟩

theorem mem_set_self {α : Type} {l : List α} {i : Nat} {p : α} (p' : α) (hi : l[i]? = some p) :
    p' ∈ l.set i p' :=
  List.mem_iff_getElem?.2 ⟨i, List.getElem?_set_self (List.getElem?_eq_some_iff.1 hi).1⟩

namespace Pool

/-- What holds of every pool: its records are idle, `register` spawns the workers, and the
semaphore count is the number of workers in `processNextTask`, of which there are at most
`concurrency`. -/
structure Wf (cfg : WorkerConfig) (p : Pool) : Prop where
  info : p.info.Idle
  beatData : ∀ d, p.beat = .setInfo d → d.Idle
  regData : ∀ d, p.reg = .setInfo d → d.Idle
  unspawned : p.reg ≠ .done → p.fibers = []
  length : p.fibers.length ≤ cfg.concurrency
  held : p.held = p.fibers.countP (·.pc == .busy)

variable {cfg : WorkerConfig} {p p' : Pool} {s s' : Store}

theorem wf_new (id : String) (now : Nat) : (new id now).Wf cfg :=
  ⟨⟨rfl, rfl, rfl⟩, (fun _ h => by cases h), (fun _ h => by cases h), (fun _ => rfl),
    Nat.zero_le _, rfl⟩

theorem Wf.setFiber (hp : p.Wf cfg) {j : Nat} {f : Fiber} (hj : p.fibers[j]? = some f) (f' : Fiber)
    {held' : Nat}
    (hh : held' = p.held - (if f.pc = .busy then 1 else 0) + (if f'.pc = .busy then 1 else 0)) :
    { p.setFiber j f' with held := held' }.Wf cfg := by
  obtain ⟨hlt, rfl⟩ := List.getElem?_eq_some_iff.1 hj
  refine { hp with unspawned := fun hr => ?_, length := ?_, held := ?_ }
  · simp [hp.unspawned hr] at hlt
  · simpa [Pool.setFiber] using hp.length
  · simp only [Pool.setFiber, List.countP_set _ _ _ _ hlt, beq_iff_eq, hh, hp.held]

theorem Wf.held_lt (hw : p.Wf cfg) {f : Fiber} (hf : f ∈ p.fibers)
    (hb : f.pc ≠ .busy) : p.held < cfg.concurrency := by
  have hlen := List.length_eq_countP_add_countP (fun x : Fiber => x.pc == .busy) p.fibers
  have hfree : 0 < p.fibers.countP fun x => decide ¬(x.pc == .busy) = true :=
    List.countP_pos_iff.2 ⟨f, hf, by simpa using hb⟩
  have := hw.length
  rw [hw.held]
  omega

inductive Effect (cfg : WorkerConfig) (p : Pool) (s : Store) : Store → Prop
  | keep : Effect cfg p s s
  | info (d : WorkerInfo) : d.Idle →
      Effect cfg p s (s.set (infoKey p.id) (.info d) (cfg.heartbeatTimeout * 2))
  | sadd : Effect cfg p s (s.sadd p.id)
  | srem : Effect cfg p s (s.srem p.id)
  | del : p.stop = .done → Effect cfg p s (s.del [heartbeatKey p.id, infoKey p.id])

theorem Effect.of_ok {ok : Bool} {t : Store} (h : ok = true → Effect cfg p s t) :
    Effect cfg p s (if ok then t else s) := by
  cases ok
  · exact .keep
  · exact h rfl

theorem step_spec {g : Goroutine} {ok : Bool} (hp : p.Wf cfg)
    (h : p.step cfg s g ok = some (p', s')) :
    p'.Wf cfg ∧ p'.id = p.id ∧
      ((p'.beats = p.beats ∧ Effect cfg p' s s') ∨
        ∃ secs, p'.beats = p.beats ++ [s.clock] ∧
          s' = s.set (heartbeatKey p.id) (.unix secs) cfg.heartbeatTimeout) := by
  have hbeat : ∀ b : BeatPc, (∀ d, b = .setInfo d → d.Idle) → { p with beat := b }.Wf cfg :=
    fun _ hb => { hp with beatData := hb }
  cases g with
  | beat =>
    cases hb : p.beat <;> simp only [step, hb] at h
    case setBeat =>
      split at h <;> cases h
      · refine ⟨{ hp with info := hp.info, beatData := ?_ }, rfl, .inr ⟨_, rfl, rfl⟩⟩
        rintro d ⟨⟩; exact hp.info
      · exact ⟨hbeat _ (fun _ h => by cases h), rfl, .inl ⟨rfl, .keep⟩⟩
    case setInfo data =>
      cases h
      exact ⟨hbeat _ (fun _ h => by cases h), rfl,
        .inl ⟨rfl, .of_ok fun _ => .info data (hp.beatData data hb)⟩⟩
    case addActive =>
      cases h; exact ⟨hbeat _ (fun _ h => by cases h), rfl, .inl ⟨rfl, .of_ok fun _ => .sadd⟩⟩
    case select => cases h; exact ⟨hbeat _ (fun _ h => by cases h), rfl, .inl ⟨rfl, .keep⟩⟩
    case done => cases h
  | register =>
    have hnil : p.reg ≠ .done → p.fibers = [] := hp.unspawned
    cases hr : p.reg <;> simp only [step, hr] at h
    case addActive =>
      cases h
      refine ⟨{ hp with info := hp.info, regData := ?_, unspawned := fun _ => hnil (by simp [hr]) },
        rfl, .inl ⟨rfl, .of_ok fun _ => .sadd⟩⟩
      rintro d ⟨⟩; exact hp.info
    case setInfo data =>
      cases h
      have hwf : Wf cfg { p with reg := .done, fibers := List.replicate cfg.concurrency ⟨.top, 0⟩ } :=
        { hp with
          regData := fun _ h => by cases h
          unspawned := fun h => absurd rfl h
          length := by simp
          held := by simp [hp.held, hnil (by simp [hr]), List.countP_replicate] }
      exact ⟨hwf, rfl, .inl ⟨rfl, .of_ok fun _ => .info data (hp.regData data hr)⟩⟩
    case done => cases h
  | stop =>
    cases hs : p.stop <;> simp only [step, hs] at h <;> (try split at h) <;> cases h <;>
      refine ⟨{ hp with }, rfl, .inl ⟨rfl, ?_⟩⟩
    all_goals first | exact .keep | exact .srem | exact .del rfl
  | fiber j =>
    cases hj : p.fibers[j]? with
    | none => simp [step, hj] at h
    | some f =>
      cases hf : f.pc <;> simp only [step, hj, hf] at h <;> (try split at h) <;> cases h <;>
        refine ⟨hp.setFiber hj _ ?_, rfl, .inl ⟨rfl, .keep⟩⟩ <;> simp [hf]

theorem leave_spec {g : Goroutine} (hp : p.Wf cfg) (h : p.leave g = some p') :
    p'.Wf cfg ∧ p'.id = p.id ∧ p'.beats = p.beats := by
  cases g with
  | beat =>
    simp only [leave] at h
    split at h <;> cases h
    exact ⟨{ hp with beatData := fun _ h => by cases h }, rfl, rfl⟩
  | fiber j =>
    cases hj : p.fibers[j]? with
    | none => simp [leave, hj] at h
    | some f =>
      simp only [leave, hj] at h
      split at h <;> cases h
      rename_i hc
      refine ⟨hp.setFiber hj _ ?_, rfl, rfl⟩
      rcases hc.1 with hc | hc <;> simp [hc]
  | _ => cases h

end Pool

theorem AdminReq.sends (r : AdminReq) : Sends AdminCmd r.script := by
  cases r with
  | listWorkers => exact sends_listWorkers
  | getWorker w => exact sends_getWorker w
  | pauseWorker w => exact sends_setPauseFlag w (adminCmd_pause w) _ _
  | resumeWorker w => exact sends_setPauseFlag w (adminCmd_resume w) _ _

def Covers (ps ps' : List Pool) : Prop :=
  ∀ q ∈ ps, ∃ q' ∈ ps', q'.id = q.id ∧ ∀ t ∈ q.beats, t ∈ q'.beats

theorem covers_set {ps : List Pool} {i : Nat} {p p' : Pool} (hi : ps[i]? = some p)
    (hid : p'.id = p.id) (hb : ∀ t ∈ p.beats, t ∈ p'.beats) : Covers ps (ps.set i p') := fun q hq => by
  rcases mem_set_of_mem p' hq hi with h | rfl
  · exact ⟨q, h, rfl, fun _ h => h⟩
  · exact ⟨p', mem_set_self p' hi, hid, hb⟩

namespace Sys

variable {cfg : WorkerConfig} {s : Sys}

/-- The registry's invariant: a heartbeat key expires when a heartbeat that some pool with its id
sent does, every record under a key is idle, and every pool is well formed. -/
structure Inv (cfg : WorkerConfig) (s : Sys) : Prop where
  beats : ∀ w v e, s.store.keys (heartbeatKey w) = some (v, e) →
    ∃ p ∈ s.pools, p.id = w ∧ ∃ t ∈ p.beats,
      e = if cfg.heartbeatTimeout = 0 then none else some (t + cfg.heartbeatTimeout)
  idle : ∀ k wi e, s.store.keys k = some (.info wi, e) → wi.Idle
  pools : ∀ p ∈ s.pools, p.Wf cfg

theorem inv_init : Inv cfg init :=
  ⟨(fun _ _ _ h => by cases h), (fun _ _ _ h => by cases h), (fun _ h => by cases h)⟩

theorem Inv.beats_of {s' : Sys} (hi : Inv cfg s) (hc : Covers s.pools s'.pools) {w : String}
    {v : Value} {e : Option Nat} (h : s.store.keys (heartbeatKey w) = some (v, e)) :
    ∃ p ∈ s'.pools, p.id = w ∧ ∃ t ∈ p.beats,
      e = if cfg.heartbeatTimeout = 0 then none else some (t + cfg.heartbeatTimeout) := by
  obtain ⟨p, hp, rfl, t, ht, he⟩ := hi.beats w v e h
  obtain ⟨q, hq, hid, hb⟩ := hc p hp
  exact ⟨q, hq, hid, t, hb t ht, he⟩

theorem Inv.of_keys {s' : Sys} (hi : Inv cfg s) (hk : s'.store.keys = s.store.keys)
    (hc : Covers s.pools s'.pools) (hw : ∀ p ∈ s'.pools, p.Wf cfg) : Inv cfg s' :=
  ⟨fun _ _ _ h => hi.beats_of hc (hk ▸ h), fun k wi e h => hi.idle k wi e (hk ▸ h), hw⟩

theorem Inv.wf_set (hi : Inv cfg s) {i : Nat} {p' : Pool} (hp' : p'.Wf cfg) :
    ∀ q ∈ s.pools.set i p', q.Wf cfg := fun q hq => by
  rcases List.mem_or_eq_of_mem_set hq with h | rfl
  · exact hi.pools q h
  · exact hp'

theorem admin_heartbeat_keys (r : AdminReq) (faults : List Bool) (st : Store) (w : String) :
    (r.script.run faults st).2.keys (heartbeatKey w) = st.keys (heartbeatKey w) := by
  rcases (AdminFrame.of_sends r.sends faults st).keys (heartbeatKey w) with hk | ⟨w', hk, -⟩
  · exact hk
  · exact absurd hk (heartbeatKey_ne_pauseKey _ _)

theorem Inv.admin (hi : Inv cfg s) (r : AdminReq) (faults : List Bool) :
    Inv cfg { s with store := (r.script.run faults s.store).2 } := by
  refine ⟨fun w v e h => hi.beats w v e ((admin_heartbeat_keys r faults s.store w).symm.trans h),
    fun k wi e h => ?_, hi.pools⟩
  rcases (AdminFrame.of_sends r.sends faults s.store).keys k with hk | ⟨w', -, hk | hk⟩
  · exact hi.idle k wi e (hk ▸ h)
  · simp_all
  · simp_all

theorem Inv.run (hi : Inv cfg s) {i : Nat} {p p' : Pool} {g : Goroutine} {ok : Bool} {st' : Store}
    (hp : s.pools[i]? = some p) (hs : p.step cfg s.store g ok = some (p', st')) :
    Inv cfg ⟨st', s.pools.set i p'⟩ := by
  obtain ⟨hw, hid, ⟨hb, he⟩ | ⟨secs, hb, rfl⟩⟩ := Pool.step_spec (hi.pools p (mem_of_getElem? hp)) hs
  · have hc : Covers s.pools (s.pools.set i p') := covers_set hp hid fun t ht => hb ▸ ht
    cases he with
    | keep => exact hi.of_keys rfl hc (hi.wf_set hw)
    | info d hd =>
      refine ⟨fun w v e h => ?_, fun k wi e h => ?_, hi.wf_set hw⟩
      · rw [Store.set_keys, if_neg (heartbeatKey_ne_infoKey _ _)] at h
        exact hi.beats_of hc h
      · rw [Store.set_keys] at h
        by_cases hk : k = infoKey p'.id
        · simp only [hk, if_true, Option.some.injEq, Prod.mk.injEq, Value.info.injEq] at h
          exact h.1 ▸ hd
        · rw [if_neg hk] at h; exact hi.idle k wi e h
    | sadd => exact hi.of_keys rfl hc (hi.wf_set hw)
    | srem => exact hi.of_keys rfl hc (hi.wf_set hw)
    | del _ =>
      refine ⟨fun w v e h => ?_, fun k wi e h => ?_, hi.wf_set hw⟩
      · rw [Store.del_keys] at h
        split_ifs at h
        exact hi.beats_of hc h
      · rw [Store.del_keys] at h
        split_ifs at h
        exact hi.idle k wi e h
  · have hc : Covers s.pools (s.pools.set i p') := covers_set hp hid fun t ht => by simp [hb, ht]
    refine ⟨fun w v e h => ?_, fun k wi e h => ?_, hi.wf_set hw⟩
    · by_cases hw' : w = p.id
      · subst hw'
        simp only [Store.set_keys, if_true, Option.some.injEq, Prod.mk.injEq] at h
        exact ⟨p', mem_set_self p' hp, hid, _, by simp [hb], h.2.symm⟩
      · rw [Store.set_keys, if_neg (mt heartbeatKey_inj.1 hw')] at h
        exact hi.beats_of hc h
    · rw [Store.set_keys] at h
      by_cases hk : k = heartbeatKey p.id
      · simp [hk] at h
      · rw [if_neg hk] at h; exact hi.idle k wi e h

theorem Inv.of_step (hi : Inv cfg s) {a : Act} {s' : Sys} (hs : s.step cfg a = some s') :
    Inv cfg s' := by
  cases a with
  | start id =>
    cases hs
    refine hi.of_keys rfl (fun q hq => ⟨q, List.mem_append_left _ hq, rfl, fun _ h => h⟩) ?_
    intro q hq
    rcases List.mem_append.1 hq with h | h
    · exact hi.pools q h
    · rw [List.mem_singleton.1 h]; exact Pool.wf_new _ _
  | crash i =>
    simp only [step] at hs
    split at hs
    · rename_i p hp
      split at hs <;> cases hs
      exact hi.of_keys rfl (covers_set hp rfl fun _ h => h) (hi.wf_set { hi.pools p (mem_of_getElem? hp) with })
    · cases hs
  | tick d => cases hs; exact hi.of_keys rfl (fun q hq => ⟨q, hq, rfl, fun _ h => h⟩) hi.pools
  | admin r faults => cases hs; exact hi.admin r faults
  | run i g ok =>
    simp only [step] at hs
    split at hs
    · rename_i p hp
      split at hs
      · obtain ⟨⟨p', st'⟩, hst, rfl⟩ := Option.map_eq_some'.1 hs
        exact hi.run hp hst
      · cases hs
    · cases hs
  | leave i g =>
    simp only [step] at hs
    split at hs
    · rename_i p hp
      split at hs
      · obtain ⟨p', hl, rfl⟩ := Option.map_eq_some'.1 hs
        obtain ⟨hw, hid, hb⟩ := Pool.leave_spec (hi.pools p (mem_of_getElem? hp)) hl
        exact hi.of_keys rfl (covers_set hp hid (by rw [hb]; exact fun _ h => h)) (hi.wf_set hw)
      · cases hs
    · cases hs

theorem Reachable.inv (hr : Reachable cfg s) : Inv cfg s := by
  induction hr with
  | refl => exact inv_init
  | tail _ hn ih =>
    obtain ⟨a, ha⟩ := hn
    exact ih.of_step ha

/-! ## Recent heartbeats -/

def KeyUntil (st : Store) (w : String) (n : Nat) : Prop :=
  ∃ v e, st.keys (heartbeatKey w) = some (v, e) ∧ ∀ x, e = some x → n ≤ x

theorem KeyUntil.live {st : Store} {w : String} {n : Nat} (h : KeyUntil st w n) (hc : st.clock < n) :
    st.live (heartbeatKey w) ≠ none := by
  obtain ⟨v, e, hk, he⟩ := h
  cases e with
  | none => simp [Store.live, hk]
  | some x => have := he x rfl; simp [Store.live, hk]; omega

theorem keyUntil_set {st : Store} {w : String} {v : Value} {ttl n : Nat} (hn : n ≤ st.clock + ttl) :
    KeyUntil (st.set (heartbeatKey w) v ttl) w n :=
  ⟨v, if ttl = 0 then none else some (st.clock + ttl), by simp,
    fun x hx => by split_ifs at hx; cases hx; exact hn⟩

/-- What a heartbeat guarantees: none is later than the clock, and each keeps the heartbeat key of
its process for a timeout, unless a process with the same id has finished `Stop`. -/
structure Fresh (cfg : WorkerConfig) (s : Sys) : Prop where
  past : ∀ p ∈ s.pools, ∀ t ∈ p.beats, t ≤ s.store.clock
  kept : ∀ p ∈ s.pools, ∀ t ∈ p.beats,
    (∃ q ∈ s.pools, q.id = p.id ∧ q.stop = .done) ∨ KeyUntil s.store p.id (t + cfg.heartbeatTimeout)

theorem fresh_init : Fresh cfg init := ⟨(fun _ h => by cases h), (fun _ h => by cases h)⟩

theorem Fresh.of_store (hf : Fresh cfg s) {st' : Store} (hc : s.store.clock ≤ st'.clock)
    (hk : ∀ w, st'.keys (heartbeatKey w) = s.store.keys (heartbeatKey w)) :
    Fresh cfg ⟨st', s.pools⟩ :=
  ⟨fun p hp t ht => (hf.past p hp t ht).trans hc, fun p hp t ht =>
    (hf.kept p hp t ht).imp_right fun ⟨v, e, h, he⟩ => ⟨v, e, (hk _).trans h, he⟩⟩

theorem Fresh.of_beat (hf : Fresh cfg s) (w : String) (secs : Nat) :
    Fresh cfg ⟨s.store.set (heartbeatKey w) (.unix secs) cfg.heartbeatTimeout, s.pools⟩ := by
  refine ⟨hf.past, fun p hp t ht => ?_⟩
  by_cases h : p.id = w
  · subst h
    exact .inr (keyUntil_set (by have := hf.past p hp t ht; omega))
  · refine (hf.kept p hp t ht).imp_right fun ⟨v, e, hk, he⟩ => ⟨v, e, ?_, he⟩
    simp [hk, heartbeatKey_inj, h]

theorem Fresh.of_del (hf : Fresh cfg s) {q : Pool} (hq : q ∈ s.pools) (hd : q.stop = .done) :
    Fresh cfg ⟨s.store.del [heartbeatKey q.id, infoKey q.id], s.pools⟩ := by
  refine ⟨hf.past, fun p hp t ht => ?_⟩
  by_cases h : p.id = q.id
  · exact .inl ⟨q, hq, h.symm, hd⟩
  · refine (hf.kept p hp t ht).imp_right fun ⟨v, e, hk, he⟩ => ⟨v, e, ?_, he⟩
    simp [hk, heartbeatKey_inj, h, heartbeatKey_ne_infoKey]

theorem Fresh.of_set (hf : Fresh cfg s) {i : Nat} {p p' : Pool} (hi : s.pools[i]? = some p)
    (hrun : p.running) (hid : p'.id = p.id) (hb : ∀ t ∈ p'.beats, t ∈ p.beats ∨
      t ≤ s.store.clock ∧ KeyUntil s.store p.id (t + cfg.heartbeatTimeout)) :
    Fresh cfg ⟨s.store, s.pools.set i p'⟩ := by
  have hdone : ∀ w, (∃ q ∈ s.pools, q.id = w ∧ q.stop = .done) →
      ∃ q ∈ s.pools.set i p', q.id = w ∧ q.stop = .done := by
    rintro w ⟨q, hq, hw, hd⟩
    refine ⟨q, ?_, hw, hd⟩
    rcases mem_set_of_mem p' hq hi with h | rfl
    · exact h
    · simp [Pool.running, hd] at hrun
  have hp := mem_of_getElem? hi
  refine ⟨fun q hq t ht => ?_, fun q hq t ht => ?_⟩ <;>
    rcases List.mem_or_eq_of_mem_set hq with hq | rfl
  · exact hf.past q hq t ht
  · exact (hb t ht).elim (hf.past p hp t) And.left
  · exact (hf.kept q hq t ht).imp_left (hdone _)
  · rw [hid]
    exact (hb t ht).elim (fun h => (hf.kept p hp t h).imp_left (hdone _)) fun h => .inr h.2

theorem Fresh.of_step (hf : Fresh cfg s) (hi : Inv cfg s) {a : Act} {s' : Sys}
    (hs : s.step cfg a = some s') : Fresh cfg s' := by
  cases a with
  | start id =>
    cases hs
    refine ⟨fun q hq t ht => ?_, fun q hq t ht => ?_⟩ <;> rcases List.mem_append.1 hq with hq | hq
    · exact hf.past q hq t ht
    · simp [List.mem_singleton.1 hq, Pool.new] at ht
    · exact (hf.kept q hq t ht).imp_left fun ⟨d, hd, h⟩ => ⟨d, List.mem_append_left _ hd, h⟩
    · simp [List.mem_singleton.1 hq, Pool.new] at ht
  | crash i =>
    simp only [step] at hs
    split at hs
    · rename_i p hp
      split at hs <;> cases hs
      exact hf.of_set hp ‹_› rfl fun _ => .inl
    · cases hs
  | tick d => cases hs; exact hf.of_store (Nat.le_add_right _ _) fun _ => rfl
  | admin r faults =>
    cases hs
    exact hf.of_store (AdminFrame.of_sends r.sends faults s.store).clock.ge
      (admin_heartbeat_keys r faults s.store)
  | run i g ok =>
    simp only [step] at hs
    split at hs
    · rename_i p hp
      split at hs
      · rename_i hrun
        obtain ⟨⟨p', st'⟩, hst, rfl⟩ := Option.map_eq_some'.1 hs
        obtain ⟨-, hid, ⟨hb, he⟩ | ⟨secs, hb, rfl⟩⟩ :=
          Pool.step_spec (hi.pools p (mem_of_getElem? hp)) hst
        · have h₁ := hf.of_set hp hrun hid fun t ht => .inl (hb ▸ ht)
          cases he with
          | keep => exact h₁
          | info d _ => exact h₁.of_store le_rfl fun _ => by simp [heartbeatKey_ne_infoKey]
          | sadd => exact h₁.of_store le_rfl fun _ => rfl
          | srem => exact h₁.of_store le_rfl fun _ => rfl
          | del hd => exact h₁.of_del (mem_set_self p' hp) hd
        · refine (hf.of_beat p.id secs).of_set hp hrun hid fun t ht => ?_
          rcases List.mem_append.1 (hb ▸ ht) with ht | ht
          · exact .inl ht
          · exact .inr ⟨(List.mem_singleton.1 ht).le, keyUntil_set (by simp [List.mem_singleton.1 ht])⟩
      · cases hs
    · cases hs
  | leave i g =>
    simp only [step] at hs
    split at hs
    · rename_i p hp
      split at hs
      · obtain ⟨p', hl, rfl⟩ := Option.map_eq_some'.1 hs
        obtain ⟨-, hid, hb⟩ := Pool.leave_spec (hi.pools p (mem_of_getElem? hp)) hl
        exact hf.of_set hp ‹_› hid fun t ht => .inl (hb ▸ ht)
      · cases hs
    · cases hs

theorem Reachable.fresh (hr : Reachable cfg s) : Fresh cfg s := by
  induction hr with
  | refl => exact fresh_init
  | tail hr' hn ih =>
    obtain ⟨a, ha⟩ := hn
    exact ih.of_step (Reachable.inv hr') ha

/-! ## Runs of the default deployment -/

def steps (cfg : WorkerConfig) : Sys → List Act → Option Sys
  | s, [] => some s
  | s, a :: as => (s.step cfg a).bind fun s' => steps cfg s' as

theorem steps_reaches : ∀ {s s' : Sys} (as : List Act), steps cfg s as = some s' →
    Relation.ReflTransGen (Next cfg) s s'
  | _, _, [], h => by cases h; exact .refl
  | _, _, a :: as, h => by
    obtain ⟨s₁, h₁, h₂⟩ := Option.bind_eq_some.1 h
    exact .head ⟨a, h₁⟩ (steps_reaches as h₂)

def startActs : List Act :=
  [.start "w1", .run 0 .register true, .run 0 .register true, .run 0 .beat true, .run 0 .beat true,
    .run 0 .beat true]

def pausedActs : List Act := startActs ++ [.admin (.pauseWorker "w1") []]

def crashedActs : List Act := startActs ++ [.crash 0, .tick (15 * 1000000000)]

def acquiringActs : List Act := startActs ++ [.run 0 (.fiber 0) true, .run 0 (.fiber 0) true]

def paused : Sys := (init.steps .default pausedActs).getD init

def crashed : Sys := (init.steps .default crashedActs).getD init

def acquiring : Sys := (init.steps .default acquiringActs).getD init

theorem reachable_paused : Reachable .default paused := steps_reaches pausedActs rfl

theorem reachable_crashed : Reachable .default crashed := steps_reaches crashedActs rfl

theorem reachable_acquiring : Reachable .default acquiring := steps_reaches acquiringActs rfl

theorem paused_live : paused.store.live (pauseKey "w1") ≠ none := by decide

/-! ## Liveness and records -/

/-- In every reachable state, `IsWorkerAlive(w)` answers true only if a heartbeat of a process
with id `w` reached Redis within the last `heartbeatTimeout`, whichever commands fail. -/
theorem isWorkerAlive_needs_recent_heartbeat (hr : Reachable cfg s) (hT : 0 < cfg.heartbeatTimeout)
    {w : String}
    (hsilent : ∀ p ∈ s.pools, p.id = w → ∀ t ∈ p.beats, t + cfg.heartbeatTimeout ≤ s.store.clock)
    (faults : List Bool) : ((isWorkerAlive w).run faults s.store).1 ≠ .ok true := by
  rw [isWorkerAlive, run_keyExists]
  split_ifs
  · simp
  · intro h
    simp only [Except.ok.injEq, decide_eq_true_eq, Store.exists_pos] at h
    obtain ⟨v, hv⟩ := Option.ne_none_iff_exists'.1 h
    obtain ⟨e, he⟩ := Store.live_eq_some _ hv
    obtain ⟨p, hp, hid, t, ht, rfl⟩ := hr.inv.beats w v e he
    have hle := hsilent p hp hid t ht
    simp only [Store.live, he, hT.ne', if_false] at hv
    split_ifs at hv
    omega

theorem isWorkerAlive_needs_recent_heartbeat_crashed :
    ((isWorkerAlive "w1").run [] crashed.store).1 ≠ .ok true :=
  isWorkerAlive_needs_recent_heartbeat reachable_crashed (by decide) (by decide) []

/-- A heartbeat less than `heartbeatTimeout` ago keeps `IsWorkerAlive(w)` true when its command
succeeds, unless a process with id `w` has finished `Stop`. -/
theorem isWorkerAlive_of_recent_heartbeat (hr : Reachable cfg s) {p : Pool} (hp : p ∈ s.pools)
    {t : Nat} (ht : t ∈ p.beats) (hrecent : s.store.clock < t + cfg.heartbeatTimeout)
    (hstop : ∀ q ∈ s.pools, q.id = p.id → q.stop ≠ .done) (faults : List Bool) :
    ((isWorkerAlive p.id).run (false :: faults) s.store).1 = .ok true := by
  rcases hr.fresh.kept p hp t ht with ⟨q, hq, hid, hd⟩ | hk
  · exact absurd hd (hstop q hq hid)
  · simpa [isWorkerAlive, run_keyExists] using hk.live hrecent

theorem isWorkerAlive_of_recent_heartbeat_acquiring :
    ∃ p ∈ acquiring.pools, p.id = "w1" ∧ ((isWorkerAlive "w1").run [false] acquiring.store).1 = .ok true := by
  obtain ⟨p, hp, hid, ht, hstop⟩ : ∃ p ∈ acquiring.pools, p.id = "w1" ∧ 0 ∈ p.beats ∧
      ∀ q ∈ acquiring.pools, q.id = p.id → q.stop ≠ .done := by
    decide
  exact ⟨p, hp, hid, hid ▸ isWorkerAlive_of_recent_heartbeat reachable_acquiring hp ht (by decide) hstop []⟩

/-- The records the admin API shows never change: in every reachable state, every worker record
`ListWorkers` and `GetWorker` answer with says `idle`, with no active task and concurrency 0,
whatever the worker does. -/
theorem worker_records_idle (hr : Reachable cfg s) (faults : List Bool) :
    (∀ ws n, (listWorkers.run faults s.store).1 = .workers 200 ws n →
      ∀ wi ∈ ws, wi.state = "idle" ∧ wi.activeTasks = 0 ∧ wi.concurrency = 0) ∧
    (∀ w wi, ((getWorker w).run faults s.store).1 = .worker 200 wi →
      wi.state = "idle" ∧ wi.activeTasks = 0 ∧ wi.concurrency = 0) := by
  have hidle : ∀ wi, (∃ id, s.store.live (infoKey id) = some (.info wi)) → wi.Idle := by
    rintro wi ⟨id, hl⟩
    obtain ⟨e, he⟩ := Store.live_eq_some _ hl
    exact hr.inv.idle _ wi e he
  exact ⟨fun ws n h wi hwi => hidle wi (listWorkers_live h wi hwi),
    fun w wi h => hidle wi (getWorker_live h)⟩

theorem worker_records_idle_crashed :
    (∀ ws n, (listWorkers.run [] crashed.store).1 = .workers 200 ws n →
      ∀ wi ∈ ws, wi.state = "idle" ∧ wi.activeTasks = 0 ∧ wi.concurrency = 0) ∧
    (∀ w wi, ((getWorker w).run [] crashed.store).1 = .worker 200 wi →
      wi.state = "idle" ∧ wi.activeTasks = 0 ∧ wi.concurrency = 0) :=
  worker_records_idle reachable_crashed []

/- The two endpoints disagree on a crashed worker: one heartbeat timeout after the crash its
heartbeat key has expired, so `GetWorker` answers 404, while its record, set to live twice as
long, keeps it in the answer of `ListWorkers`. -/
example :
    Reachable .default crashed ∧
      (∃ wi, (listWorkers.run [] crashed.store).1 = .workers 200 [wi] 1 ∧ wi.id = "w1") ∧
      ((getWorker "w1").run [] crashed.store).1 = .error 404 "worker not found or not active" :=
  ⟨reachable_crashed, ⟨_, rfl, rfl⟩, rfl⟩

/-- The concurrency semaphore never blocks: a pool starts exactly `concurrency` workers and each
holds at most one slot, so a worker waiting for a slot always finds one free. -/
theorem acquire_never_blocks (hr : Reachable cfg s) {p : Pool} (hp : p ∈ s.pools) {f : Fiber}
    (hf : f ∈ p.fibers) (ha : f.pc = .acquire) : p.held < cfg.concurrency :=
  (hr.inv.pools p hp).held_lt hf (by simp [ha])

theorem acquire_never_blocks_acquiring :
    ∃ p ∈ acquiring.pools, ⟨.acquire, 0⟩ ∈ p.fibers ∧ p.held < WorkerConfig.default.concurrency := by
  obtain ⟨p, hp, hf⟩ : ∃ p ∈ acquiring.pools, (⟨.acquire, 0⟩ : Fiber) ∈ p.fibers := by decide
  exact ⟨p, hp, hf, acquire_never_blocks reachable_acquiring hp hf rfl⟩

end Sys

/-! ## The pause flag -/

def Fiber.budget (f : Fiber) : Nat := f.claims + if f.pc = .acquire then 1 else 0

def Sys.fiber (s : Sys) (i j : Nat) : Option Fiber := s.pools[i]? >>= fun p => p.fibers[j]?

def Act.failsCheck (s : Sys) (w : String) : Act → Bool
  | .run i (.fiber _) false => (s.pools[i]?.map (·.id)) == some w
  | _ => false

/-- One step after which `w`'s pause key still exists and in which no pause check of a worker of
a process with id `w` fails. -/
def PausedNext (cfg : WorkerConfig) (w : String) (s s' : Sys) : Prop :=
  ∃ a, s.step cfg a = some s' ∧ a.failsCheck s w = false ∧ s'.store.live (pauseKey w) ≠ none

theorem getElem?_set_cases {α : Type} {l : List α} {i i' : Nat} {x y : α}
    (h : (l.set i' x)[i]? = some y) : (i = i' ∧ y = x ∧ l[i]?.isSome) ∨ (i ≠ i' ∧ l[i]? = some y) := by
  rw [List.getElem?_set] at h
  split_ifs at h with h₁ h₂
  · subst h₁; cases h; exact .inl ⟨rfl, rfl, by simp [h₂]⟩
  · exact .inr ⟨Ne.symm h₁, h⟩

theorem pausedFlag_of_fault {w : String} {st : Store} :
    Pool.pausedFlag ((isWorkerPaused w).run [true] st).1 = false := by
  simp [isWorkerPaused, run_keyExists, Pool.pausedFlag]

theorem pausedFlag_of_live {w : String} {st : Store} (h : st.live (pauseKey w) ≠ none) :
    Pool.pausedFlag ((isWorkerPaused w).run [false] st).1 = true := by
  simp only [isWorkerPaused, run_keyExists, List.head?_cons, Option.some.injEq, Bool.false_eq_true,
    if_false, Pool.pausedFlag, decide_eq_true_eq, Store.exists_pos]
  exact h

namespace Pool

variable {cfg : WorkerConfig} {p p' : Pool} {s s' : Store}

def FibersLe (p p' : Pool) : Prop :=
  ∀ (j : Nat) (f' : Fiber), p'.fibers[j]? = some f' →
    (∃ f, p.fibers[j]? = some f ∧ f'.budget ≤ f.budget) ∨ f'.budget = 0

theorem fibersLe_of_eq (h : p'.fibers = p.fibers) : FibersLe p p' :=
  fun _ f' hf => .inl ⟨f', h ▸ hf, le_rfl⟩

theorem fibersLe_setFiber {j : Nat} {f f' : Fiber} (hj : p.fibers[j]? = some f)
    (hle : f'.budget ≤ f.budget) (held' : Nat) : FibersLe p { p.setFiber j f' with held := held' } :=
  fun j' g hg => by
    rcases getElem?_set_cases hg with ⟨rfl, rfl, -⟩ | ⟨-, hg⟩
    · exact .inl ⟨f, hj, hle⟩
    · exact .inl ⟨g, hg, le_rfl⟩

theorem step_id {g : Goroutine} {ok : Bool} (h : p.step cfg s g ok = some (p', s')) : p'.id = p.id := by
  cases g <;> simp only [step] at h <;> repeat' split at h
  all_goals first | cases h; rfl | cases h

theorem step_fibersLe {g : Goroutine} {ok : Bool} (h : p.step cfg s g ok = some (p', s'))
    (hpaused : s.live (pauseKey p.id) ≠ none) (hok : ∀ j, g = .fiber j → ok = true) :
    FibersLe p p' := by
  cases g with
  | beat =>
    cases hb : p.beat <;> simp only [step, hb] at h <;> (try split at h) <;> cases h <;>
      exact fibersLe_of_eq rfl
  | register =>
    cases hr : p.reg <;> simp only [step, hr] at h <;> cases h
    · exact fibersLe_of_eq rfl
    · intro j f' hf
      simp only [List.getElem?_replicate] at hf
      split_ifs at hf
      cases hf
      exact .inr rfl
  | stop =>
    cases hs : p.stop <;> simp only [step, hs] at h <;> (try split at h) <;> cases h <;>
      exact fibersLe_of_eq rfl
  | fiber j =>
    obtain rfl := hok j rfl
    cases hj : p.fibers[j]? with
    | none => simp [step, hj] at h
    | some f =>
      cases hf : f.pc <;> simp only [step, hj, hf, Bool.not_true, pausedFlag_of_live hpaused,
        if_true] at h <;> (try split at h) <;> cases h <;> refine fibersLe_setFiber hj ?_ _ <;>
        simp [Fiber.budget, hf]

theorem leave_fibersLe {g : Goroutine} (h : p.leave g = some p') : FibersLe p p' ∧ p'.id = p.id := by
  cases g with
  | beat =>
    simp only [leave] at h
    split at h <;> cases h
    exact ⟨fibersLe_of_eq rfl, rfl⟩
  | fiber j =>
    cases hj : p.fibers[j]? with
    | none => simp [leave, hj] at h
    | some f =>
      simp only [leave, hj] at h
      split at h <;> cases h
      exact ⟨fibersLe_setFiber hj (by simp [Fiber.budget]) _, rfl⟩
  | _ => cases h

end Pool

namespace Sys

variable {cfg : WorkerConfig} {s s' : Sys} {w : String}

theorem step_fibers {a : Act} (hs : s.step cfg a = some s') (ha : a.failsCheck s w = false)
    (hpause : s.store.live (pauseKey w) ≠ none) {i : Nat} {p' : Pool} (hi : s'.pools[i]? = some p')
    (hw : p'.id = w) : (∃ p, s.pools[i]? = some p ∧ p.id = w ∧ Pool.FibersLe p p') ∨ p'.fibers = [] := by
  have keep : s'.pools = s.pools →
      (∃ p, s.pools[i]? = some p ∧ p.id = w ∧ Pool.FibersLe p p') ∨ p'.fibers = [] :=
    fun h => .inl ⟨p', h ▸ hi, hw, Pool.fibersLe_of_eq rfl⟩
  cases a with
  | start id =>
    cases hs
    rcases Nat.lt_or_ge i s.pools.length with hlt | hge
    · rw [List.getElem?_append_left hlt] at hi
      exact .inl ⟨p', hi, hw, Pool.fibersLe_of_eq rfl⟩
    · rw [List.getElem?_append_right hge] at hi
      cases h : i - s.pools.length with
      | zero => rw [h] at hi; cases hi; exact .inr rfl
      | succ k => rw [h] at hi; simp at hi
  | crash i' =>
    simp only [step] at hs
    split at hs
    · rename_i p hp
      split at hs <;> cases hs
      rcases getElem?_set_cases hi with ⟨rfl, rfl, -⟩ | ⟨-, hi⟩
      · exact .inl ⟨p, hp, hw, Pool.fibersLe_of_eq rfl⟩
      · exact .inl ⟨p', hi, hw, Pool.fibersLe_of_eq rfl⟩
    · cases hs
  | tick d => cases hs; exact keep rfl
  | admin r faults => cases hs; exact keep rfl
  | run i' g ok =>
    simp only [step] at hs
    split at hs
    · rename_i p hp
      split at hs
      · obtain ⟨⟨p'', st'⟩, hst, rfl⟩ := Option.map_eq_some'.1 hs
        rcases getElem?_set_cases hi with ⟨rfl, rfl, -⟩ | ⟨-, hi⟩
        · have hid : p.id = w := (Pool.step_id hst).symm.trans hw
          refine .inl ⟨p, hp, hid, Pool.step_fibersLe hst (hid ▸ hpause) ?_⟩
          rintro j rfl
          cases ok
          · simp [Act.failsCheck, hp, hid] at ha
          · rfl
        · exact .inl ⟨p', hi, hw, Pool.fibersLe_of_eq rfl⟩
      · cases hs
    · cases hs
  | leave i' g =>
    simp only [step] at hs
    split at hs
    · rename_i p hp
      split at hs
      · obtain ⟨p'', hl, rfl⟩ := Option.map_eq_some'.1 hs
        rcases getElem?_set_cases hi with ⟨rfl, rfl, -⟩ | ⟨-, hi⟩
        · obtain ⟨hle, hid⟩ := Pool.leave_fibersLe hl
          exact .inl ⟨p, hp, hid ▸ hw, hle⟩
        · exact .inl ⟨p', hi, hw, Pool.fibersLe_of_eq rfl⟩
      · cases hs
    · cases hs

theorem PausedNext.budget (hs : s.store.live (pauseKey w) ≠ none)
    (hr : Relation.ReflTransGen (PausedNext cfg w) s s') :
    s'.store.live (pauseKey w) ≠ none ∧ ∀ i j p f, s'.pools[i]? = some p → p.id = w →
      p.fibers[j]? = some f → f.budget ≤ ((s.fiber i j).map Fiber.budget).getD 0 := by
  induction hr with
  | refl => exact ⟨hs, fun i j p f hp _ hf => by simp [Sys.fiber, hp, hf]⟩
  | tail _ hn ih =>
    obtain ⟨a, ha, hfail, hlive⟩ := hn
    obtain ⟨hl, hb⟩ := ih
    refine ⟨hlive, fun i j p' f' hp' hw hf' => ?_⟩
    rcases step_fibers ha hfail hl hp' hw with ⟨p, hp, hpw, hle⟩ | hnil
    · rcases hle j f' hf' with ⟨f, hf, hff⟩ | h0
      · exact hff.trans (hb i j p f hp hpw hf)
      · omega
    · simp [hnil] at hf'

/-- Pausing stops a worker after at most one more task: along every run that keeps `w`'s pause
key and fails none of its checks, each worker calls `processNextTask` at most once more. -/
theorem paused_worker_takes_at_most_one_more_task (hs : s.store.live (pauseKey w) ≠ none)
    (hr : Relation.ReflTransGen (PausedNext cfg w) s s') {i j : Nat} {p : Pool} {f : Fiber}
    (hp : s'.pools[i]? = some p) (hw : p.id = w) (hf : p.fibers[j]? = some f) :
    f.claims ≤ ((s.fiber i j).map Fiber.budget).getD 0 :=
  le_trans (Nat.le_add_right _ _) ((PausedNext.budget hs hr).2 i j p f hp hw hf)

def keepsPause (cfg : WorkerConfig) (w : String) : Sys → List Act → Bool
  | _, [] => true
  | s, a :: as =>
    match s.step cfg a with
    | some s' => !a.failsCheck s w && (s'.store.live (pauseKey w)).isSome && keepsPause cfg w s' as
    | none => false

theorem keepsPause_reaches : ∀ {s s' : Sys} (as : List Act), keepsPause cfg w s as = true →
    steps cfg s as = some s' → Relation.ReflTransGen (PausedNext cfg w) s s'
  | _, _, [], _, h => by cases h; exact .refl
  | _, _, a :: as, hk, h => by
    obtain ⟨s₁, h₁, h₂⟩ := Option.bind_eq_some.1 h
    simp only [keepsPause, h₁, Bool.and_eq_true, Bool.not_eq_true', Option.isSome_iff_ne_none] at hk
    exact .head ⟨a, h₁, hk.1.1, hk.1.2⟩ (keepsPause_reaches as hk.2 h₂)

def latePaused : Sys := (acquiring.step .default (.admin (.pauseWorker "w1") [])).getD acquiring

def lateActs : List Act := List.replicate 4 (.run 0 (.fiber 0) true)

def lateSleeping : Sys := (latePaused.steps .default lateActs).getD latePaused

theorem paused_worker_takes_at_most_one_more_task_late_pause :
    ∃ p f, lateSleeping.pools[0]? = some p ∧ p.id = "w1" ∧ p.fibers[0]? = some f ∧
      f = ⟨.sleep, 1⟩ ∧ f.claims ≤ ((latePaused.fiber 0 0).map Fiber.budget).getD 0 := by
  have hr : Relation.ReflTransGen (PausedNext .default "w1") latePaused lateSleeping :=
    keepsPause_reaches lateActs (by decide) rfl
  exact ⟨_, _, rfl, rfl, rfl, rfl, paused_worker_takes_at_most_one_more_task (by decide) hr rfl rfl rfl⟩

/-! ## The pause check fails open -/

/-- One step after which `w`'s pause key still exists; a pause check may fail. -/
def KeptNext (cfg : WorkerConfig) (w : String) (s s' : Sys) : Prop :=
  ∃ a, s.step cfg a = some s' ∧ s'.store.live (pauseKey w) ≠ none

theorem step_run {i : Nat} {p p' : Pool} {g : Goroutine} {ok : Bool} (hp : s.pools[i]? = some p)
    (hrun : p.running) (h : p.step cfg s.store g ok = some (p', s.store)) :
    s.step cfg (.run i g ok) = some ⟨s.store, s.pools.set i p'⟩ := by
  simp [step, hp, hrun, h]

theorem step_run_set {i : Nat} {q q' : Pool} {g : Goroutine} {ok : Bool} (hi : i < s.pools.length)
    (hrun : q.running) (h : q.step cfg s.store g ok = some (q', s.store)) :
    Sys.step cfg ⟨s.store, s.pools.set i q⟩ (.run i g ok) = some ⟨s.store, s.pools.set i q'⟩ := by
  simp [step, hi, hrun, h, List.set_set]

theorem failedCheck_loop {i j c : Nat} {p : Pool} (hp : s.pools[i]? = some p) (hrun : p.running)
    (hstop : p.stopping = false) (hf : p.fibers[j]? = some ⟨.top, c⟩)
    (hheld : p.held < cfg.concurrency) (hlive : s.store.live (pauseKey w) ≠ none) :
    Relation.ReflTransGen (KeptNext cfg w) s ⟨s.store, s.pools.set i (p.setFiber j ⟨.top, c + 1⟩)⟩ := by
  have hi := (List.getElem?_eq_some_iff.1 hp).1
  have hj := (List.getElem?_eq_some_iff.1 hf).1
  have h1 : s.step cfg (.run i (.fiber j) true) =
      some ⟨s.store, s.pools.set i (p.setFiber j ⟨.remote, c⟩)⟩ :=
    step_run hp hrun (by simp [Pool.step, hf, hstop])
  have h2 : Sys.step cfg ⟨s.store, s.pools.set i (p.setFiber j ⟨.remote, c⟩)⟩ (.run i (.fiber j) false) =
      some ⟨s.store, s.pools.set i (p.setFiber j ⟨.acquire, c⟩)⟩ :=
    step_run_set hi hrun (by simp [Pool.step, Pool.setFiber, hj, pausedFlag_of_fault])
  have h3 : Sys.step cfg ⟨s.store, s.pools.set i (p.setFiber j ⟨.acquire, c⟩)⟩ (.run i (.fiber j) true) =
      some ⟨s.store, s.pools.set i { p.setFiber j ⟨.busy, c + 1⟩ with held := p.held + 1 }⟩ :=
    step_run_set hi hrun (by simp [Pool.step, Pool.setFiber, hj, hheld])
  have h4 : Sys.step cfg ⟨s.store, s.pools.set i { p.setFiber j ⟨.busy, c + 1⟩ with held := p.held + 1 }⟩
      (.run i (.fiber j) true) = some ⟨s.store, s.pools.set i (p.setFiber j ⟨.top, c + 1⟩)⟩ :=
    step_run_set hi hrun (by simp [Pool.step, Pool.setFiber, hj])
  exact .tail (.tail (.tail (.single ⟨_, h1, hlive⟩) ⟨_, h2, hlive⟩) ⟨_, h3, hlive⟩) ⟨_, h4, hlive⟩

theorem failedCheck_runs {i j c : Nat} {p : Pool} (hp : s.pools[i]? = some p) (hrun : p.running)
    (hstop : p.stopping = false) (hf : p.fibers[j]? = some ⟨.top, c⟩)
    (hheld : p.held < cfg.concurrency) (hlive : s.store.live (pauseKey w) ≠ none) :
    ∀ n, Relation.ReflTransGen (KeptNext cfg w) s
      ⟨s.store, s.pools.set i (p.setFiber j ⟨.top, c + n + 1⟩)⟩
  | 0 => failedCheck_loop hp hrun hstop hf hheld hlive
  | n + 1 => by
    have h := failedCheck_loop (s := ⟨s.store, s.pools.set i (p.setFiber j ⟨.top, c + n + 1⟩)⟩)
      (List.getElem?_set_self (List.getElem?_eq_some_iff.1 hp).1) hrun hstop
      (List.getElem?_set_self (List.getElem?_eq_some_iff.1 hf).1) hheld hlive
    simp only [List.set_set, Pool.setFiber] at h
    exact (failedCheck_runs hp hrun hstop hf hheld hlive n).trans h

/-- The pause check fails open: from every reachable state with a live pause key, failing checks
let a worker call `processNextTask` any number of times. -/
theorem failed_pause_checks_unbounded (hr : Reachable cfg s) {i j c : Nat} {p : Pool}
    (hp : s.pools[i]? = some p) (hrun : p.running) (hstop : p.stopping = false)
    (hf : p.fibers[j]? = some ⟨.top, c⟩) (hlive : s.store.live (pauseKey p.id) ≠ none) :
    ∀ n, ∃ s', Relation.ReflTransGen (KeptNext cfg p.id) s s' ∧ s'.fiber i j = some ⟨.top, c + n⟩
  | 0 => ⟨s, .refl, by simp [Sys.fiber, hp, hf]⟩
  | n + 1 => by
    have hheld := (hr.inv.pools p (mem_of_getElem? hp)).held_lt (List.mem_iff_getElem?.2 ⟨j, hf⟩)
      (by simp)
    refine ⟨_, failedCheck_runs hp hrun hstop hf hheld hlive n, ?_⟩
    simp [Sys.fiber, (List.getElem?_eq_some_iff.1 hf).1, (List.getElem?_eq_some_iff.1 hp).1,
      Pool.setFiber]
    rfl

theorem failed_pause_checks_unbounded_paused :
    ∃ s', Relation.ReflTransGen (KeptNext .default "w1") paused s' ∧
      s'.fiber 0 0 = some ⟨.top, 3⟩ := by
  obtain ⟨p, hp⟩ := Option.isSome_iff_exists.1 (by decide : paused.pools[0]?.isSome)
  have hpool : (paused.pools[0]?.all fun p => p.running && !p.stopping &&
      p.fibers[0]? == some ⟨.top, 0⟩ && p.id == "w1") := by
    decide
  simp only [hp, Option.all_some, Bool.and_eq_true, Bool.not_eq_true', beq_iff_eq] at hpool
  obtain ⟨⟨⟨hrun, hstop⟩, hf⟩, hid⟩ := hpool
  have h := failed_pause_checks_unbounded reachable_paused hp hrun hstop hf (hid ▸ paused_live) 3
  exact hid ▸ h

end Sys

end TaskQueue.Registry
