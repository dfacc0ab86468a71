import TaskQueue.Task.StateMachine
set_option autoImplicit false

namespace TaskQueue.Redis

structure Message where
  taskId : String
  type : String
  deriving DecidableEq, Repr

/-- A stream entry; stream ids are the store's counter, so they grow with every append. -/
structure Entry where
  id : Nat
  msg : Message
  deriving DecidableEq, Repr

structure Pending where
  id : Nat
  consumer : String
  deliveredAt : Nat
  deriving DecidableEq, Repr

structure PendingInfo where
  id : Nat
  consumer : String
  idle : Nat
  deriving DecidableEq, Repr

structure Group where
  lastDelivered : Nat
  pel : List Pending
  deriving DecidableEq, Repr

structure Stream where
  entries : List Entry
  groups : String → Option Group

structure DLQData where
  task : Task
  reason : String
  addedAt : Nat
  origError : String
  deriving DecidableEq, Repr

structure DLQMessage where
  id : Nat
  taskId : String
  type : String
  data : DLQData
  deriving DecidableEq, Repr

/-- A `task:{id}` key: the serialized task and the instant its TTL runs out. -/
structure Record where
  task : Task
  expiresAt : Option Nat
  deriving DecidableEq, Repr

/-- The keys the core uses: `task:{id}`, the priority streams by key, `tasks:scheduled`
(kept in score order), `tasks:dlq`, `tasks:dlq:set` and `scheduler:lock` (its expiry). -/
structure Store where
  clock : Nat
  nextId : Nat
  records : String → Option Record
  streams : String → Option Stream
  scheduled : List (String × Int)
  dlq : List DLQMessage
  dlqSet : List String
  lock : Option Nat

def noGroup : Error := "NOGROUP No such key or consumer group"
def busyGroup : Error := "BUSYGROUP Consumer Group name already exists"

/-- The commands of the store, each with its reply type. -/
inductive Cmd : Type → Type
  | get (id : String) : Cmd (Option Task)
  | set (id : String) (t : Task) (ttl : Nat) : Cmd Unit
  | del (id : String) : Cmd Unit
  | xadd (stream : String) (m : Message) : Cmd Nat
  | xreadgroup (group consumer : String) (streams : List String) (count : Nat) :
      Cmd (List (String × List Entry))
  | xack (stream group : String) (id : Nat) : Cmd Nat
  | xpending (stream group : String) (count : Nat) : Cmd (List PendingInfo)
  | xclaim (stream group consumer : String) (minIdle id : Nat) : Cmd (List Entry)
  | xinfoPending (stream group : String) : Cmd Nat
  | setnxLock (ttl : Nat) : Cmd Bool
  | delLock : Cmd Unit
  | zadd (score : Int) (id : String) : Cmd Unit
  | zrem (id : String) : Cmd Unit
  | zrangeByScore (max : Int) : Cmd (List String)
  | dlqAdd (taskId type : String) (data : DLQData) : Cmd Nat
  | dlqRange : Cmd (List DLQMessage)
  | dlqDel (id : Nat) : Cmd Unit
  | sadd (id : String) : Cmd Unit
  | srem (id : String) : Cmd Unit
  | delDLQ : Cmd Unit
  | delDLQSet : Cmd Unit
  | delStream (key : String) : Cmd Unit
  | xgroupCreateMkStream (key group : String) : Cmd Unit

namespace Store

/-- `GET task:{id}`: a record whose TTL ran out is gone. -/
def getTask (s : Store) (id : String) : Option Task :=
  match s.records id with
  | some r => if r.expiresAt.all (s.clock < ·) then some r.task else none
  | none => none

def setStream (s : Store) (key : String) (st : Stream) : Store :=
  { s with streams := Function.update s.streams key (some st) }

def group (s : Store) (key group : String) : Option (Stream × Group) :=
  (s.streams key).bind fun st => (st.groups group).map (st, ·)

def setGroup (s : Store) (key name : String) (st : Stream) (g : Group) : Store :=
  s.setStream key { st with groups := Function.update st.groups name (some g) }

end Store

/-- One stream of `XREADGROUP ... COUNT count STREAMS key >`: the next new entries go to the
consumer and into the PEL. -/
def Group.read (g : Group) (entries : List Entry) (consumer : String) (count now : Nat) :
    List Entry × Group :=
  let new := (entries.filter (g.lastDelivered < ·.id)).take count
  match new.getLast? with
  | none => ([], g)
  | some last =>
    (new, { lastDelivered := last.id, pel := g.pel ++ new.map fun e => ⟨e.id, consumer, now⟩ })

/-- `XREADGROUP` over several keys: the keys that delivered, in request order. A missing
stream or group fails the whole command. -/
def readGroup (group consumer : String) (count : Nat) :
    List String → Store → Except Error (List (String × List Entry)) × Store
  | [], s => (.ok [], s)
  | key :: keys, s =>
    match s.group key group with
    | none => (.error noGroup, s)
    | some (st, g) =>
      let (new, g') := g.read st.entries consumer count s.clock
      match readGroup group consumer count keys (s.setGroup key group st g') with
      | (.ok rest, s') => (.ok (if new.isEmpty then rest else (key, new) :: rest), s')
      | (.error e, _) => (.error e, s)

/-- `XCLAIM` of one id: only a PEL entry idle for at least `minIdle` changes owner. -/
def Group.claim (g : Group) (consumer : String) (minIdle id now : Nat) : Bool × Group :=
  if g.pel.any fun p => p.id = id ∧ minIdle ≤ now - p.deliveredAt then
    (true, { g with pel := g.pel.map fun p => if p.id = id then ⟨id, consumer, now⟩ else p })
  else (false, g)

def insertByScore (m : String × Int) : List (String × Int) → List (String × Int)
  | [] => [m]
  | x :: xs => if m.2 < x.2 then m :: x :: xs else x :: insertByScore m xs

def Cmd.run : {β : Type} → Cmd β → Store → Except Error β × Store
  | _, .get id, s => (.ok (s.getTask id), s)
  | _, .set id t ttl, s =>
    let r : Record := ⟨t, if ttl = 0 then none else some (s.clock + ttl)⟩
    (.ok (), { s with records := Function.update s.records id (some r) })
  | _, .del id, s => (.ok (), { s with records := Function.update s.records id none })
  | _, .xadd key m, s =>
    let st := (s.streams key).getD ⟨[], fun _ => none⟩
    (.ok s.nextId,
      { (s.setStream key { st with entries := st.entries ++ [⟨s.nextId, m⟩] }) with
        nextId := s.nextId + 1 })
  | _, .xreadgroup group consumer keys count, s => readGroup group consumer count keys s
  | _, .xack key group id, s =>
    match s.group key group with
    | none => (.ok 0, s)
    | some (st, g) =>
      ((.ok (g.pel.filter (·.id = id)).length),
        s.setGroup key group st { g with pel := g.pel.filter (·.id ≠ id) })
  | _, .xpending key group count, s =>
    match s.group key group with
    | none => (.error noGroup, s)
    | some (_, g) =>
      (.ok ((g.pel.take count).map fun p => ⟨p.id, p.consumer, s.clock - p.deliveredAt⟩), s)
  | _, .xclaim key group consumer minIdle id, s =>
    match s.group key group with
    | none => (.error noGroup, s)
    | some (st, g) =>
      match g.claim consumer minIdle id s.clock with
      | (true, g') => (.ok (st.entries.filter (·.id = id)), s.setGroup key group st g')
      | (false, _) => (.ok [], s)
  | _, .xinfoPending key group, s =>
    match s.group key group with
    | none => (.error noGroup, s)
    | some (_, g) => (.ok g.pel.length, s)
  | _, .setnxLock ttl, s =>
    if s.lock.all (· ≤ s.clock) then (.ok true, { s with lock := some (s.clock + ttl) })
    else (.ok false, s)
  | _, .delLock, s => (.ok (), { s with lock := none })
  | _, .zadd score id, s =>
    (.ok (), { s with scheduled := insertByScore (id, score) (s.scheduled.filter (·.1 ≠ id)) })
  | _, .zrem id, s => (.ok (), { s with scheduled := s.scheduled.filter (·.1 ≠ id) })
  | _, .zrangeByScore max, s => (.ok ((s.scheduled.filter (·.2 ≤ max)).map (·.1)), s)
  | _, .dlqAdd taskId type data, s =>
    (.ok s.nextId,
      { s with dlq := s.dlq ++ [⟨s.nextId, taskId, type, data⟩], nextId := s.nextId + 1 })
  | _, .dlqRange, s => (.ok s.dlq, s)
  | _, .dlqDel id, s => (.ok (), { s with dlq := s.dlq.filter (·.id ≠ id) })
  | _, .sadd id, s => (.ok (), if id ∈ s.dlqSet then s else { s with dlqSet := s.dlqSet ++ [id] })
  | _, .srem id, s => (.ok (), { s with dlqSet := s.dlqSet.filter (· ≠ id) })
  | _, .delDLQ, s => (.ok (), { s with dlq := [] })
  | _, .delDLQSet, s => (.ok (), { s with dlqSet := [] })
  | _, .delStream key, s => (.ok (), { s with streams := Function.update s.streams key none })
  | _, .xgroupCreateMkStream key group, s =>
    let st := (s.streams key).getD ⟨[], fun _ => none⟩
    match st.groups group with
    | some _ => (.error busyGroup, s)
    | none => (.ok (), s.setGroup key group st ⟨0, []⟩)

def Store.empty : Store where
  clock := 0
  nextId := 1
  records _ := none
  streams _ := none
  scheduled := []
  dlq := []
  dlqSet := []
  lock := none

/-! What a consumer group sees of a stream, and what each command does to it. -/

namespace Store

def lane (s : Store) (key name : String) : Option (List Entry × Group) :=
  (s.group key name).map fun x => (x.1.entries, x.2)

def drained (s : Store) (key name : String) : Prop :=
  ∃ es g, s.lane key name = some (es, g) ∧ ∀ e ∈ es, e.id ≤ g.lastDelivered

variable {s : Store} {key name : String} {st : Stream} {g : Group}

theorem group_eq_some :
    s.group key name = some (st, g) ↔ s.streams key = some st ∧ st.groups name = some g := by
  simp only [group, Option.bind_eq_some, Option.map_eq_some', Prod.mk.injEq]
  constructor
  · rintro ⟨st', h₁, g', h₂, rfl, rfl⟩; exact ⟨h₁, h₂⟩
  · rintro ⟨h₁, h₂⟩; exact ⟨st, h₁, g, h₂, rfl, rfl⟩

theorem lane_eq_some {es : List Entry} :
    s.lane key name = some (es, g) ↔ ∃ st, s.group key name = some (st, g) ∧ st.entries = es := by
  simp [lane]

theorem setGroup_self (h : s.group key name = some (st, g)) : s.setGroup key name st g = s := by
  obtain ⟨h₁, h₂⟩ := group_eq_some.1 h
  simp only [setGroup, setStream, ← h₂, Function.update_eq_self]
  rw [show (⟨st.entries, st.groups⟩ : Stream) = st from rfl, ← h₁, Function.update_eq_self]

@[simp] theorem lane_setGroup_self :
    (s.setGroup key name st g).lane key name = some (st.entries, g) := by
  simp [lane, group, setGroup, setStream]

theorem lane_setGroup_of_ne {key' name' : String} (h : key' ≠ key) :
    (s.setGroup key name st g).lane key' name' = s.lane key' name' := by
  simp [lane, group, setGroup, setStream, Function.update_noteq h]

theorem drained_of_lane_eq {s' : Store} (h : s'.lane key name = s.lane key name)
    (hd : s.drained key name) : s'.drained key name := by
  rwa [drained, h]

theorem drained_setGroup_of_ne {key' : String} (h : key' ≠ key) (hd : s.drained key' name) :
    (s.setGroup key name st g).drained key' name := by
  rwa [drained, lane_setGroup_of_ne h]

@[simp] theorem clock_setGroup : (s.setGroup key name st g).clock = s.clock := rfl

@[simp] theorem nextId_setGroup : (s.setGroup key name st g).nextId = s.nextId := rfl

@[simp] theorem getTask_setGroup {id : String} :
    (s.setGroup key name st g).getTask id = s.getTask id := rfl

@[simp] theorem getTask_set_self (id : String) (t : Task) (ttl : Nat) :
    ((Cmd.set id t ttl).run s).2.getTask id = some t := by
  simp only [Cmd.run, getTask, Function.update_same]
  split <;> simp_all

@[simp] theorem lane_set (id : String) (t : Task) (ttl : Nat) (key' : String) :
    ((Cmd.set id t ttl).run s).2.lane key' name = s.lane key' name := rfl

@[simp] theorem nextId_set (id : String) (t : Task) (ttl : Nat) :
    ((Cmd.set id t ttl).run s).2.nextId = s.nextId := rfl

@[simp] theorem getTask_xadd (id : String) (m : Message) :
    ((Cmd.xadd key m).run s).2.getTask id = s.getTask id := rfl

@[simp] theorem nextId_xadd (m : Message) : ((Cmd.xadd key m).run s).2.nextId = s.nextId + 1 := rfl

theorem lane_xadd (key' : String) (m : Message) : ((Cmd.xadd key m).run s).2.lane key' name =
    if key' = key then (s.lane key name).map fun x => (x.1 ++ [⟨s.nextId, m⟩], x.2)
    else s.lane key' name := by
  simp only [Cmd.run, lane, group, setStream]
  split
  · subst key'; cases hs : s.streams key <;> simp [hs, Function.comp_def]
  · simp [Function.update_noteq ‹_›]

theorem lane_xadd_self (m : Message) : ((Cmd.xadd key m).run s).2.lane key name =
    (s.lane key name).map fun x => (x.1 ++ [⟨s.nextId, m⟩], x.2) := by
  rw [lane_xadd, if_pos rfl]

theorem lane_xadd_of_ne {key' : String} (h : key' ≠ key) (m : Message) :
    ((Cmd.xadd key m).run s).2.lane key' name = s.lane key' name := by
  rw [lane_xadd, if_neg h]

theorem xack_run_of_group (hg : s.group key name = some (st, g)) (id : Nat) :
    ((Cmd.xack key name id).run s).2 =
      s.setGroup key name st { g with pel := g.pel.filter (·.id ≠ id) } := by
  simp [Cmd.run, hg]

theorem lane_xack (key' : String) (i : Nat) : ((Cmd.xack key name i).run s).2.lane key' name =
    if key' = key then
      (s.lane key name).map fun x => (x.1, { x.2 with pel := x.2.pel.filter (·.id ≠ i) })
    else s.lane key' name := by
  rcases hg : s.group key name with _ | ⟨st, g⟩
  · simp only [Cmd.run, hg]; split <;> simp_all [lane]
  · have hl : s.lane key name = some (st.entries, g) := by simp [lane, hg]
    rw [xack_run_of_group hg]
    split
    · subst key'; simp [hl]
    · exact lane_setGroup_of_ne ‹_›

theorem lane_xack_self (i : Nat) : ((Cmd.xack key name i).run s).2.lane key name =
    (s.lane key name).map fun x => (x.1, { x.2 with pel := x.2.pel.filter (·.id ≠ i) }) := by
  rw [lane_xack, if_pos rfl]

theorem lane_xack_of_ne {key' : String} (h : key' ≠ key) (i : Nat) :
    ((Cmd.xack key name i).run s).2.lane key' name = s.lane key' name := by
  rw [lane_xack, if_neg h]

@[simp] theorem getTask_xack (id : String) (i : Nat) :
    ((Cmd.xack key name i).run s).2.getTask id = s.getTask id := by
  simp only [Cmd.run]; split <;> rfl

@[simp] theorem nextId_xack (i : Nat) : ((Cmd.xack key name i).run s).2.nextId = s.nextId := by
  simp only [Cmd.run]; split <;> rfl

@[simp] theorem dlqSet_xack (i : Nat) : ((Cmd.xack key name i).run s).2.dlqSet = s.dlqSet := by
  simp only [Cmd.run]; split <;> rfl

@[simp] theorem dlq_xack (i : Nat) : ((Cmd.xack key name i).run s).2.dlq = s.dlq := by
  simp only [Cmd.run]; split <;> rfl

@[simp] theorem lane_dlqAdd (id type : String) (d : DLQData) (key' : String) :
    ((Cmd.dlqAdd id type d).run s).2.lane key' name = s.lane key' name := rfl

@[simp] theorem dlq_dlqAdd (id type : String) (d : DLQData) :
    ((Cmd.dlqAdd id type d).run s).2.dlq = s.dlq ++ [⟨s.nextId, id, type, d⟩] := rfl

@[simp] theorem lane_sadd (id key' : String) :
    ((Cmd.sadd id).run s).2.lane key' name = s.lane key' name := by
  simp only [Cmd.run]; split <;> rfl

@[simp] theorem dlq_sadd (id : String) : ((Cmd.sadd id).run s).2.dlq = s.dlq := by
  simp only [Cmd.run]; split <;> rfl

theorem mem_dlqSet_sadd (id : String) : id ∈ ((Cmd.sadd id).run s).2.dlqSet := by
  simp only [Cmd.run]; split <;> simp_all

theorem streams_delStream (key' : String) :
    ((Cmd.delStream key).run s).2.streams key' = if key' = key then none else s.streams key' :=
  Function.update_apply ..

theorem streams_xgroupCreateMkStream_of_ne {key' : String} (h : key' ≠ key) :
    ((Cmd.xgroupCreateMkStream key name).run s).2.streams key' = s.streams key' := by
  simp only [Cmd.run]; split <;> simp [setGroup, setStream, Function.update_noteq h]

theorem lane_xgroupCreateMkStream_of_none (h : s.streams key = none) :
    ((Cmd.xgroupCreateMkStream key name).run s).2.lane key name = some ([], ⟨0, []⟩) := by
  simp [Cmd.run, h]

end Store

theorem filter_eq_single {es : List Entry} {d : Nat} {e : Entry}
    (h : es.filter (fun x => decide (d < x.id)) = [e]) :
    d < e.id ∧ e ∈ es ∧ ∀ x ∈ es, x.id ≤ e.id := by
  have he : e ∈ es.filter (fun x => decide (d < x.id)) := h ▸ List.mem_singleton_self e
  rw [List.mem_filter, decide_eq_true_eq] at he
  refine ⟨he.2, he.1, fun x hx => ?_⟩
  by_cases hd : d < x.id
  · have : x ∈ es.filter (fun x => decide (d < x.id)) := List.mem_filter.2 ⟨hx, by simpa using hd⟩
    rw [h, List.mem_singleton] at this
    exact this ▸ le_rfl
  · omega

section Read

variable {s : Store} {name c : String} {n : Nat}

theorem Group.read_of_drained {g : Group} {es : List Entry} {now : Nat}
    (h : ∀ e ∈ es, e.id ≤ g.lastDelivered) : g.read es c n now = ([], g) := by
  have hf : es.filter (fun e => decide (g.lastDelivered < e.id)) = [] :=
    List.filter_eq_nil_iff.2 fun e he => by simpa using h e he
  simp [Group.read, hf]

theorem Group.read_single {g : Group} {es : List Entry} {e : Entry} {now : Nat}
    (h : es.filter (fun x => decide (g.lastDelivered < x.id)) = [e]) :
    g.read es c 1 now = ([e], ⟨e.id, g.pel ++ [⟨e.id, c, now⟩]⟩) := by
  simp [Group.read, h]

theorem readGroup_drained :
    ∀ {keys : List String}, (∀ key ∈ keys, s.drained key name) →
      readGroup name c n keys s = (.ok [], s)
  | [], _ => rfl
  | key :: keys, hk => by
    obtain ⟨es, g, hl, hd⟩ := hk key (.head _)
    obtain ⟨st, hg, rfl⟩ := Store.lane_eq_some.1 hl
    simp only [readGroup, hg, Group.read_of_drained hd, Store.setGroup_self hg,
      readGroup_drained fun k h => hk k (.tail _ h)]
    rfl

theorem readGroup_single {key : String} {st : Stream} {g : Group} {e : Entry}
    (hg : s.group key name = some (st, g))
    (he : st.entries.filter (fun x => decide (g.lastDelivered < x.id)) = [e]) :
    ∀ {keys : List String}, keys.Nodup → key ∈ keys → (∀ k ∈ keys, k ≠ key → s.drained k name) →
      readGroup name c 1 keys s =
        (.ok [(key, [e])], s.setGroup key name st ⟨e.id, g.pel ++ [⟨e.id, c, s.clock⟩]⟩)
  | [], _, hk, _ => absurd hk (List.not_mem_nil _)
  | k :: keys, hnd, hk, hd => by
    rw [List.nodup_cons] at hnd
    by_cases hkey : k = key
    · subst hkey
      have hrest : ∀ k' ∈ keys,
          (s.setGroup k name st ⟨e.id, g.pel ++ [⟨e.id, c, s.clock⟩]⟩).drained k' name :=
        fun k' h => Store.drained_setGroup_of_ne (ne_of_mem_of_not_mem h hnd.1)
          (hd k' (.tail _ h) (ne_of_mem_of_not_mem h hnd.1))
      simp only [readGroup, hg, Group.read_single he, readGroup_drained hrest]
      rfl
    · obtain ⟨es, g₀, hl, hd₀⟩ := hd k (.head _) hkey
      obtain ⟨st₀, hg₀, rfl⟩ := Store.lane_eq_some.1 hl
      simp only [readGroup, hg₀, Group.read_of_drained hd₀, Store.setGroup_self hg₀,
        readGroup_single hg he hnd.2 ((List.mem_cons.1 hk).resolve_left (Ne.symm hkey))
          fun k' h => hd k' (.tail _ h)]
      rfl

end Read

theorem Store.getTask_eq_some {s : Store} {id : String} {t : Task} (h : s.getTask id = some t) :
    ∃ r, s.records id = some r ∧ r.task = t := by
  unfold Store.getTask at h
  split at h
  · split at h <;> cases h
    exact ⟨_, ‹_›, rfl⟩
  · cases h

theorem mem_insertByScore {m x : String × Int} :
    ∀ {l : List (String × Int)}, x ∈ insertByScore m l ↔ x = m ∨ x ∈ l
  | [] => by simp [insertByScore]
  | y :: l => by
    unfold insertByScore
    split <;> simp [mem_insertByScore, or_left_comm]

theorem clock_readGroup (name c : String) (n : Nat) :
    ∀ (keys : List String) (s : Store), (readGroup name c n keys s).2.clock = s.clock
  | [], _ => rfl
  | key :: keys, s => by
    simp only [readGroup]
    split
    · rfl
    · rename_i st g _
      have ih := clock_readGroup name c n keys (s.setGroup key name st (g.read st.entries c n s.clock).2)
      split <;> simp_all

theorem Cmd.clock_run {β : Type} (c : Cmd β) (s : Store) : (c.run s).2.clock = s.clock := by
  cases c <;> simp only [Cmd.run]
  all_goals first | rfl | exact clock_readGroup .. | (split <;> (try split) <;> rfl)

end TaskQueue.Redis
