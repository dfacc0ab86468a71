import Mathlib.Data.List.Nodup
import TaskQueue.System.Actor
set_option autoImplicit false

namespace TaskQueue.Lease

open Prog Redis Scheduler

/-- The entry points of the scheduler: one `processDueTasks` tick of some scheduler instance,
and a `ScheduleTask` (or `ScheduleTaskFunc`) call. -/
inductive Entry
  | processDueTasks
  | scheduleTask (t : Task) (scheduledAt : Nat)

def Entry.prog (q : RedisQueue) : Entry → Prog Unit
  | .processDueTasks => Scheduler.processDueTasks q
  | .scheduleTask t scheduledAt => discard (Scheduler.scheduleTask t scheduledAt)

def Entry.taskId : Entry → Option String
  | .processDueTasks => none
  | .scheduleTask t _ => some t.id

/-- Where a procedure of the scheduler stands: a scheduler instance before its `SETNX`, holding
the lease at one of the store commands of `processDueTasks`, or finished; a `ScheduleTask`
call before one of its three commands. -/
inductive Actor
  | acquire
  | clock
  | due (now : Nat)
  | loop (ids : List String)
  | drop (id : String) (rest : List String)
  | promote (id : String) (t : Task) (rest : List String)
  | persist (id : String) (t : Task) (rest : List String)
  | append (id : String) (t : Task) (rest : List String)
  | done
  | store (t : Task) (scheduledAt : Nat)
  | index (t : Task) (scheduledAt : Nat)
  | unstore (t : Task) (e : Error)

variable (q : RedisQueue)

/-- The rest of the Go procedure from the actor's point on. -/
def Actor.prog : Actor → Prog Unit
  | .acquire => processDueTasks q
  | .clock => timeNow.bind fun now => activateDue q now
  | .due now => activateDue q now
  | .loop ids => activateAll q ids
  | .drop id rest => (dropScheduled id).bind fun _ => activateAll q rest
  | .promote id t rest => (activateScheduled q id t).bind fun _ => activateAll q rest
  | .persist id t rest => (persistActivated q id t).bind fun _ => activateAll q rest
  | .append id t rest => (appendActivated q id t).bind fun _ => activateAll q rest
  | .done => .ret ()
  | .store t scheduledAt => discard (scheduleTask t scheduledAt)
  | .index t scheduledAt => discard (indexScheduled t scheduledAt)
  | .unstore t e =>
    discard (((exec (.del t.id)).bind fun _ =>
      .ret (some ("failed to add task to scheduled set: " ++ e))) : Prog (Option Error))

def Entry.actor : Entry → Actor
  | .processDueTasks => .acquire
  | .scheduleTask t scheduledAt => .store t scheduledAt

theorem Entry.prog_eq (c : Entry) : c.prog q = c.actor.prog q := by
  cases c <;> rfl

def afterGet (id : String) (rest : List String) : Except Error (Option Task) → Actor
  | .ok (some t) => if t.state = .scheduled then .promote id t rest else .drop id rest
  | _ => .drop id rest

def Actor.move : Actor → Move Actor
  | .acquire => .cmd (.setnxLock schedulerLockTTL) fun
    | .ok true => .clock
    | _ => .done
  | .clock => .time .due
  | .due now => .cmd (.zrangeByScore (now / second : Nat)) fun
    | .ok ids => .loop ids
    | .error _ => .loop []
  | .loop [] => .cmd .delLock fun _ => .done
  | .loop (id :: rest) => .cmd (.get id) (afterGet id rest)
  | .drop id rest => .cmd (.zrem id) fun _ => .loop rest
  | .promote id t rest => .time fun now =>
    match StateMachine.transition .pending now t with
    | (t', none) => .persist id t' rest
    | (_, some _) => .loop rest
  | .persist id t rest => .cmd (.set t.id t (if t.state.isFinal ∧ q.taskRetentionDays > 0 then
      q.taskRetentionDays.toNat * 24 * RedisQueue.hour else 0)) fun
    | .ok () => .append id t rest
    | .error _ => .loop rest
  | .append id t rest => .cmd (.xadd (t.priority.streamName q.streamPrefix) ⟨t.id, t.type⟩) fun
    | .ok _ => .drop id rest
    | .error _ => .loop rest
  | .done => .stop
  | .store t scheduledAt => .cmd (.set t.id t 0) fun
    | .ok () => .index t scheduledAt
    | .error _ => .done
  | .index t scheduledAt => .cmd (.zadd (scheduledAt / second : Nat) t.id) fun
    | .ok () => .done
    | .error e => .unstore t e
  | .unstore t _ => .cmd (.del t.id) fun _ => .done

theorem Actor.prog_eq (a : Actor) : a.prog q = (a.move q).prog (Actor.prog q) := by
  cases a with
  | acquire | due | persist | append | store | index =>
    refine congrArg (Prog.redis _) (funext fun r => ?_)
    rcases r with _ | _ | _ <;> rfl
  | loop ids =>
    rcases ids with _ | ⟨id, rest⟩
    · rfl
    · refine congrArg (Prog.redis _) (funext fun r => ?_)
      rcases r with _ | _ | t
      · rfl
      · rfl
      · by_cases hs : t.state = .scheduled
        · simp only [afterGet, hs, pure_eq, ret_bind, if_true, not_true_eq_false, if_false]; rfl
        · simp only [afterGet, hs, pure_eq, ret_bind, if_false, ne_eq, not_false_eq_true, if_true]
          rfl
  | promote id t rest =>
    refine congrArg Prog.time (funext fun now => ?_)
    simp only [activateScheduled, bind_eq, timeNow, Prog.bind]
    rcases StateMachine.transition .pending now t with ⟨t', _ | e⟩ <;> rfl
  | clock | drop | done | unstore => rfl

/-! ## What the scheduler's safety is about -/

def streamCount (s : Store) (key id : String) : Nat :=
  ((s.streams key).map fun st => st.entries.countP (·.msg.taskId == id)).getD 0

def entryCount (s : Store) (id : String) : Nat :=
  (RedisQueue.priorities.map fun p => streamCount s (p.streamName q.streamPrefix) id).sum

theorem streamCount_xadd_self (s : Store) (key id : String) (m : Message) :
    streamCount ((Cmd.xadd key m).run s).2 key id =
      streamCount s key id + if m.taskId = id then 1 else 0 := by
  simp only [streamCount, Cmd.run, Store.setStream, Function.update_same, Option.map_some',
    Option.getD_some, List.countP_append]
  cases s.streams key <;> simp [List.countP_cons]

theorem streamCount_xadd_of_ne (s : Store) {key key' : String} (id : String) (m : Message)
    (h : key' ≠ key) : streamCount ((Cmd.xadd key m).run s).2 key' id = streamCount s key' id := by
  simp [streamCount, Cmd.run, Store.setStream, Function.update_noteq h]

variable {q}

theorem entryCount_xadd (s : Store) (p : Priority) (id : String) (m : Message) :
    entryCount q ((Cmd.xadd (p.streamName q.streamPrefix) m).run s).2 id =
      entryCount q s id + if m.taskId = id then 1 else 0 := by
  have hne : ∀ p' : Priority, p' ≠ p →
      streamCount ((Cmd.xadd (p.streamName q.streamPrefix) m).run s).2
        (p'.streamName q.streamPrefix) id = streamCount s (p'.streamName q.streamPrefix) id :=
    fun p' h => streamCount_xadd_of_ne s id m fun he => h (Priority.streamName_injective _ he)
  cases p <;> simp (disch := decide) only [entryCount, RedisQueue.priorities, List.map,
    List.sum_cons, List.sum_nil, streamCount_xadd_self, hne] <;> omega

theorem entryCount_of_streams {s s' : Store} (h : s'.streams = s.streams) (id : String) :
    entryCount q s' id = entryCount q s id := by
  simp only [entryCount, streamCount, h]

/-! ## The invariant -/

namespace Actor

def holds : Actor → Bool
  | .clock | .due _ | .loop _ | .drop _ _ | .promote _ _ _ | .persist _ _ _ | .append _ _ _ => true
  | _ => false

def pending : Actor → List String
  | .loop ids => ids
  | .drop id rest | .promote id _ rest | .persist id _ rest | .append id _ rest => id :: rest
  | _ => []

def storing : Actor → Option String
  | .store t _ | .index t _ | .unstore t _ => some t.id
  | _ => none

variable (q)

/-- What an actor knows of the store: a scheduler promoting `id` found no entry for it, and
once it has written the record, that record is no longer scheduled; a `ScheduleTask` call
owns its id, which has no entry and is not in the index yet. -/
def Facts (s : Store) : Actor → Prop
  | .promote id t _ => t.id = id ∧ entryCount q s id = 0
  | .persist id t _ => t.id = id ∧ t.state ≠ .scheduled ∧ entryCount q s id = 0
  | .append id t _ =>
    t.id = id ∧ entryCount q s id = 0 ∧ ∀ r, s.records id = some r → r.task.state ≠ .scheduled
  | .store t _ | .index t _ | .unstore t _ =>
    t.id ∉ s.scheduled.map (·.1) ∧ entryCount q s t.id = 0
  | _ => True

end Actor

/-- The part of the invariant about the procedures alone: one lease holder, one
`ScheduleTask` call per id, no scheduler instance has an id still being stored pending, and
every id comes from some `ScheduleTask` call. -/
structure Actors (as : List Actor) (ids : List String) : Prop where
  single : Unique (·.holds) as
  storing : ∀ id, Unique (·.storing = some id) as
  unmentioned : ∀ a ∈ as, ∀ b ∈ as, ∀ id, a.storing = some id → id ∉ b.pending
  pendingFresh : ∀ a ∈ as, ∀ id ∈ a.pending, id ∈ ids
  storingFresh : ∀ a ∈ as, ∀ id, a.storing = some id → id ∈ ids

variable (q) in
/-- The invariant of the scheduler, for the store, the procedures in flight and the ids the
`ScheduleTask` calls so far were given. -/
structure Inv (s : Store) (as : List Actor) (ids : List String) : Prop where
  actors : Actors as ids
  lease : ∀ a ∈ as, a.holds → ∃ e, s.lock = some e ∧ s.clock < e
  keyed : ∀ id r, s.records id = some r → r.task.id = id
  once : ∀ id, entryCount q s id ≤ 1
  settled : ∀ id r, 0 < entryCount q s id → s.records id = some r → r.task.state ≠ .scheduled
  facts : ∀ a ∈ as, a.Facts q s
  indexFresh : ∀ x ∈ s.scheduled, x.1 ∈ ids
  entryFresh : ∀ id, 0 < entryCount q s id → id ∈ ids

namespace Actor

def subject : Actor → Option String
  | .promote id _ _ | .persist id _ _ | .append id _ _ => some id
  | .store t _ | .index t _ | .unstore t _ => some t.id
  | _ => none

theorem facts_congr {s s' : Store} (b : Actor)
    (h : ∀ id, b.subject = some id → s'.records id = s.records id ∧
      (id ∈ s'.scheduled.map (·.1) ↔ id ∈ s.scheduled.map (·.1)) ∧
      entryCount q s' id = entryCount q s id) :
    b.Facts q s' ↔ b.Facts q s := by
  cases b <;> simp only [Facts, subject] at h ⊢
  all_goals first
    | exact Iff.rfl
    | (obtain ⟨h₁, h₂, h₃⟩ := h _ rfl; simp only [h₁, h₂, h₃])

theorem mem_pending_of_subject {b : Actor} {id : String} (h : b.subject = some id)
    (hs : b.storing = none) : id ∈ b.pending := by
  cases b <;> simp_all [subject, pending, storing]

theorem subject_of_storing {b : Actor} {id : String} (h : b.storing = some id) :
    b.subject = some id := by
  cases b <;> simp_all [subject, storing]

theorem holds_of_mem_pending {b : Actor} {id : String} (h : id ∈ b.pending) : b.holds := by
  cases b <;> simp_all [holds, pending]

theorem unindexed_of_storing {b : Actor} {s : Store} {id : String} (h : b.storing = some id)
    (hf : b.Facts q s) : id ∉ s.scheduled.map (·.1) := by
  cases b <;> simp only [storing, Option.some.injEq, reduceCtorEq] at h <;> exact h ▸ hf.1

end Actor

section Preservation

variable {s : Store} {as : List Actor} {ids : List String} {i : Nat} {a a' : Actor}

theorem Actors.set (h : Actors as ids) (hi : as[i]? = some a)
    (hh : a'.holds → ∀ k b, k ≠ i → as[k]? = some b → b.holds = false)
    (hp : ∀ id ∈ a'.pending, id ∈ a.pending ∨ (id ∈ ids ∧ ∀ b ∈ as, b.storing ≠ some id))
    (hs : ∀ id, a'.storing = some id → a.storing = some id) : Actors (as.set i a') ids := by
  have ha : a ∈ as := List.getElem?_mem hi
  refine ⟨h.single.set ?_, fun id => (h.storing id).set ?_, ?_, ?_, ?_⟩
  · exact fun hn k b hk hb hbh => by simp [hh hn k b hk hb] at hbh
  · exact fun hn k b hk hb hbh => hk (h.storing _ _ _ _ _ hb hi hbh (hs _ hn))
  · intro x hx y hy id hxs hyp
    obtain ⟨z, hz, hzs⟩ : ∃ z ∈ as, z.storing = some id := by
      rcases List.mem_or_eq_of_mem_set hx with hx | rfl
      · exact ⟨x, hx, hxs⟩
      · exact ⟨a, ha, hs id hxs⟩
    rcases List.mem_or_eq_of_mem_set hy with hy | rfl
    · exact h.unmentioned z hz y hy id hzs hyp
    · rcases hp id hyp with hp | ⟨-, hn⟩
      · exact h.unmentioned z hz a ha id hzs hp
      · exact hn z hz hzs
  · intro b hb id hid
    rcases List.mem_or_eq_of_mem_set hb with hb | rfl
    · exact h.pendingFresh b hb id hid
    · exact (hp id hid).elim (h.pendingFresh a ha id) And.left
  · intro b hb id hid
    rcases List.mem_or_eq_of_mem_set hb with hb | rfl
    · exact h.storingFresh b hb id hid
    · exact h.storingFresh a ha id (hs id hid)

theorem Actors.holds_other (h : Actors as ids) (hi : as[i]? = some a) (ha : a.holds) :
    ∀ k b, k ≠ i → as[k]? = some b → b.holds = false := by
  intro k b hk hb
  by_contra hbh
  exact hk (h.single _ _ _ _ hb hi (by simpa using hbh) ha)

theorem Actors.eraseIdx (h : Actors as ids) (i : Nat) : Actors (as.eraseIdx i) ids := by
  have hm : ∀ {b}, b ∈ as.eraseIdx i → b ∈ as := List.mem_of_mem_eraseIdx
  exact ⟨h.single.eraseIdx i, fun id => (h.storing id).eraseIdx i,
    fun x hx y hy => h.unmentioned x (hm hx) y (hm hy), fun b hb => h.pendingFresh b (hm hb),
    fun b hb => h.storingFresh b (hm hb)⟩

theorem Inv.eraseIdx (h : Inv q s as ids) (i : Nat) : Inv q s (as.eraseIdx i) ids := by
  have hm : ∀ {b}, b ∈ as.eraseIdx i → b ∈ as := List.mem_of_mem_eraseIdx
  exact ⟨h.actors.eraseIdx i, fun b hb => h.lease b (hm hb), h.keyed, h.once, h.settled,
    fun b hb => h.facts b (hm hb), h.indexFresh, h.entryFresh⟩

theorem Inv.lease_set {s' : Store} (h : Inv q s as ids) (hi : as[i]? = some a)
    (hh : a'.holds → a.holds) (hlock : s'.lock = s.lock) (hclock : s'.clock = s.clock) :
    ∀ b ∈ as.set i a', b.holds → ∃ e, s'.lock = some e ∧ s'.clock < e := by
  intro b hb hbh
  rw [hlock, hclock]
  rcases List.mem_or_eq_of_mem_set hb with hb | rfl
  · exact h.lease b hb hbh
  · exact h.lease a (List.getElem?_mem hi) (hh hbh)

theorem Inv.move {s' : Store} (h : Inv q s as ids) (hi : as[i]? = some a) {x : String}
    (hx : x ∈ a.pending ∨ a.storing = some x)
    (hframe : ∀ id, id ≠ x → s'.records id = s.records id ∧
      (id ∈ s'.scheduled.map (·.1) ↔ id ∈ s.scheduled.map (·.1)) ∧
      entryCount q s' id = entryCount q s id)
    (hlock : s'.lock = s.lock) (hclock : s'.clock = s.clock)
    (hh : a'.holds → a.holds) (hp : ∀ id ∈ a'.pending, id ∈ a.pending)
    (hs : ∀ id, a'.storing = some id → a.storing = some id)
    (hkeyed : ∀ id r, s'.records id = some r → r.task.id = id)
    (honce : ∀ id, entryCount q s' id ≤ 1)
    (hsettled : ∀ id r, 0 < entryCount q s' id → s'.records id = some r →
      r.task.state ≠ .scheduled)
    (hindex : ∀ y ∈ s'.scheduled, y.1 ∈ ids) (hentry : ∀ id, 0 < entryCount q s' id → id ∈ ids)
    (hf : a'.Facts q s') : Inv q s' (as.set i a') ids := by
  have ha : a ∈ as := List.getElem?_mem hi
  have hother : ∀ j b, j ≠ i → as[j]? = some b → ∀ y, b.subject = some y → y ≠ x := by
    intro j b hj hb y hy hyx
    subst hyx
    cases hbs : b.storing with
    | none =>
      have hyp := Actor.mem_pending_of_subject hy hbs
      rcases hx with hx | hx
      · exact hj (h.actors.single _ _ _ _ hb hi (Actor.holds_of_mem_pending hyp)
          (Actor.holds_of_mem_pending hx))
      · exact h.actors.unmentioned a ha b (List.getElem?_mem hb) y hx hyp
    | some z =>
      obtain rfl : z = y := by simpa [hy] using (Actor.subject_of_storing hbs).symm
      rcases hx with hx | hx
      · exact h.actors.unmentioned b (List.getElem?_mem hb) a ha z hbs hx
      · exact hj (h.actors.storing z _ _ _ _ hb hi hbs hx)
  refine ⟨h.actors.set hi (fun hn => h.actors.holds_other hi (hh hn))
    (fun id hid => .inl (hp id hid)) hs, h.lease_set hi hh hlock hclock, hkeyed, honce, hsettled,
    fun b hb => ?_, hindex, hentry⟩
  rcases mem_set_cases hb with rfl | ⟨j, hj, hbj⟩
  · exact hf
  · exact (Actor.facts_congr b fun y hy => hframe y (hother j b hj hbj y hy)).2
      (h.facts b (List.getElem?_mem hbj))

theorem Inv.set_same (h : Inv q s as ids) (hi : as[i]? = some a) (hh : a'.holds → a.holds)
    (hp : ∀ id ∈ a'.pending, id ∈ a.pending ∨ (id ∈ ids ∧ ∀ b ∈ as, b.storing ≠ some id))
    (hs : ∀ id, a'.storing = some id → a.storing = some id)
    (hf : a'.Facts q s) : Inv q s (as.set i a') ids := by
  refine ⟨h.actors.set hi (fun hn => h.actors.holds_other hi (hh hn)) hp hs,
    h.lease_set hi hh rfl rfl, h.keyed, h.once, h.settled, fun b hb => ?_, h.indexFresh,
    h.entryFresh⟩
  rcases List.mem_or_eq_of_mem_set hb with hb | rfl
  · exact h.facts b hb
  · exact hf

theorem frame_write {s' : Store} {x : String} (hr : ∀ id, id ≠ x → s'.records id = s.records id)
    (hsch : s'.scheduled = s.scheduled) (hst : s'.streams = s.streams) :
    ∀ id, id ≠ x → s'.records id = s.records id ∧
      (id ∈ s'.scheduled.map (·.1) ↔ id ∈ s.scheduled.map (·.1)) ∧
      entryCount q s' id = entryCount q s id :=
  fun id hid => ⟨hr id hid, by rw [hsch], entryCount_of_streams hst id⟩

theorem Inv.keyed_set (h : Inv q s as ids) (t : Task) (ttl : Nat) :
    ∀ id r, ((Cmd.set t.id t ttl).run s).2.records id = some r → r.task.id = id := by
  intro id r hr
  by_cases hid : id = t.id
  · subst hid
    simp only [Cmd.run, Function.update_same, Option.some.injEq] at hr
    rw [← hr]
  · exact h.keyed id r (by simpa [Cmd.run, Function.update_noteq hid] using hr)

theorem Inv.settled_write (h : Inv q s as ids) {s' : Store} {x : String}
    (hx : entryCount q s x = 0) (hr : ∀ id, id ≠ x → s'.records id = s.records id)
    (hst : s'.streams = s.streams) :
    ∀ id r, 0 < entryCount q s' id → s'.records id = some r → r.task.state ≠ .scheduled := by
  intro id r hc hr'
  rw [entryCount_of_streams hst] at hc
  have hid : id ≠ x := by rintro rfl; omega
  exact h.settled id r hc (hr id hid ▸ hr')

theorem Inv.set_lock (h : Inv q s as ids) {l : Option Nat} (hA : Actors (as.set i a') ids)
    (hlease : ∀ b ∈ as.set i a', b.holds → ∃ e, l = some e ∧ s.clock < e) (hf : a'.Facts q s) :
    Inv q { s with lock := l } (as.set i a') ids :=
  ⟨hA, hlease, h.keyed, h.once, h.settled,
    fun b hb => (List.mem_or_eq_of_mem_set hb).elim (h.facts b) (· ▸ hf), h.indexFresh,
    h.entryFresh⟩

theorem Inv.acquire (h : Inv q s as ids) (hi : as[i]? = some .acquire) {ttl : Nat} (hpos : 0 < ttl)
    (hfree : s.lock.all (· ≤ s.clock)) :
    Inv q { s with lock := some (s.clock + ttl) } (as.set i .clock) ids := by
  have hnone : ∀ b ∈ as, b.holds = false := by
    intro b hb
    by_contra hbh
    obtain ⟨e, he, hlt⟩ := h.lease b hb (by simpa using hbh)
    simp only [he, Option.all_some, decide_eq_true_eq] at hfree
    omega
  refine h.set_lock (h.actors.set hi (fun _ k b _ hb => hnone b (List.getElem?_mem hb))
    (by simp [Actor.pending]) (by simp [Actor.storing])) (fun b hb hbh => ?_) trivial
  rcases List.mem_or_eq_of_mem_set hb with hb | rfl
  · simp [hnone b hb] at hbh
  · exact ⟨_, rfl, by omega⟩

theorem Inv.release (h : Inv q s as ids) (hi : as[i]? = some (.loop [])) :
    Inv q { s with lock := none } (as.set i .done) ids := by
  refine h.set_lock (h.actors.set hi (by simp [Actor.holds]) (by simp [Actor.pending])
    (by simp [Actor.storing])) (fun b hb hbh => ?_) trivial
  rcases mem_set_cases hb with rfl | ⟨j, hj, hbj⟩
  · simp [Actor.holds] at hbh
  · simp [h.actors.holds_other hi rfl j b hj hbj] at hbh

theorem Inv.due (h : Inv q s as ids) {now : Nat} (hi : as[i]? = some (.due now)) (m : Int) :
    Inv q s (as.set i (.loop ((s.scheduled.filter (·.2 ≤ m)).map (·.1)))) ids := by
  refine h.set_same hi (fun _ => rfl) (fun id hid => .inr ?_) (by simp [Actor.storing]) trivial
  obtain ⟨y, hy, rfl⟩ : ∃ y ∈ s.scheduled, y.1 = id := by
    obtain ⟨x, hx, -⟩ := by simpa [Actor.pending] using hid
    exact ⟨_, hx, rfl⟩
  refine ⟨h.indexFresh y hy, fun b hb hbs => ?_⟩
  exact Actor.unindexed_of_storing hbs (h.facts b hb) (List.mem_map_of_mem _ hy)

theorem Inv.get (h : Inv q s as ids) {id : String} {rest : List String}
    (hi : as[i]? = some (.loop (id :: rest))) :
    Inv q s (as.set i (afterGet id rest (.ok (s.getTask id)))) ids := by
  cases hg : s.getTask id with
  | none =>
    exact h.set_same hi (fun _ => rfl) (fun x hx => .inl hx) (by simp [afterGet, Actor.storing])
      trivial
  | some t =>
    simp only [afterGet]
    split
    · obtain ⟨r, hr, rfl⟩ := Store.getTask_eq_some hg
      refine h.set_same hi (fun _ => rfl) (fun x hx => .inl hx) (by simp [Actor.storing])
        ⟨h.keyed _ _ hr, Nat.eq_zero_of_not_pos fun hc => h.settled id r hc hr ‹_›⟩
    · exact h.set_same hi (fun _ => rfl) (fun x hx => .inl hx) (by simp [Actor.storing]) trivial

theorem Inv.zrem (h : Inv q s as ids) {id : String} {rest : List String}
    (hi : as[i]? = some (.drop id rest)) :
    Inv q { s with scheduled := s.scheduled.filter (·.1 ≠ id) } (as.set i (.loop rest)) ids :=
  h.move hi (.inl (.head _)) (fun y hy => ⟨rfl, by simp [hy], entryCount_of_streams rfl y⟩) rfl rfl
    (fun _ => rfl) (fun _ => .tail _) (by simp [Actor.storing]) h.keyed h.once h.settled
    (fun y hy => h.indexFresh y (List.mem_of_mem_filter hy)) h.entryFresh trivial

theorem Inv.promote (h : Inv q s as ids) {id : String} {t : Task} {rest : List String}
    (hi : as[i]? = some (.promote id t rest)) (now : Nat) :
    Inv q s (as.set i (match StateMachine.transition .pending now t with
      | (t', none) => .persist id t' rest
      | (_, some _) => .loop rest)) ids := by
  obtain ⟨htid, hc⟩ := h.facts _ (List.getElem?_mem hi)
  split
  · rename_i t' ht'
    have hid : t'.id = t.id := by simpa [ht'] using StateMachine.transition_fst_id .pending now t
    refine h.set_same hi (fun _ => rfl) (fun x hx => .inl hx) (by simp [Actor.storing])
      ⟨hid.trans htid, ?_, hc⟩
    rw [StateMachine.transition_state_of_ok ht']
    decide
  · exact h.set_same hi (fun _ => rfl) (fun x hx => .inl (.tail _ hx)) (by simp [Actor.storing])
      trivial

theorem Inv.persist (h : Inv q s as ids) {id : String} {t : Task} {rest : List String}
    (hi : as[i]? = some (.persist id t rest)) (ttl : Nat) :
    Inv q ((Cmd.set t.id t ttl).run s).2 (as.set i (.append id t rest)) ids := by
  obtain ⟨rfl, hst, hc⟩ := h.facts _ (List.getElem?_mem hi)
  have hr : ∀ y, y ≠ t.id → ((Cmd.set t.id t ttl).run s).2.records y = s.records y :=
    fun y hy => Function.update_noteq hy _ _
  refine h.move hi (.inl (.head _)) (frame_write hr rfl rfl) rfl rfl (fun _ => rfl) (fun _ => id)
    (by simp [Actor.storing]) (h.keyed_set t ttl) h.once (h.settled_write hc hr rfl) h.indexFresh
    h.entryFresh ⟨rfl, hc, fun r hr' => ?_⟩
  simp only [Cmd.run, Function.update_same, Option.some.injEq] at hr'
  rw [← hr']
  exact hst

theorem Inv.append (h : Inv q s as ids) {id : String} {t : Task} {rest : List String}
    (hi : as[i]? = some (.append id t rest)) :
    Inv q ((Cmd.xadd (t.priority.streamName q.streamPrefix) ⟨t.id, t.type⟩).run s).2
      (as.set i (.drop id rest)) ids := by
  obtain ⟨rfl, hc, hst⟩ := h.facts _ (List.getElem?_mem hi)
  have hcount : ∀ y, entryCount q ((Cmd.xadd (t.priority.streamName q.streamPrefix)
      ⟨t.id, t.type⟩).run s).2 y = entryCount q s y + if t.id = y then 1 else 0 :=
    fun y => entryCount_xadd s t.priority y ⟨t.id, t.type⟩
  refine h.move hi (.inl (.head _)) (fun y hy => ⟨rfl, Iff.rfl, by simp [hcount, Ne.symm hy]⟩) rfl
    rfl (fun _ => rfl) (fun _ => id) (by simp [Actor.storing]) h.keyed (fun y => ?_)
    (fun y r hy hr => ?_) h.indexFresh (fun y hy => ?_) trivial
  · rw [hcount]
    split
    · subst y; omega
    · simpa using h.once y
  · by_cases hyt : y = t.id
    · subst hyt; exact hst r hr
    · rw [hcount, if_neg (Ne.symm hyt), Nat.add_zero] at hy
      exact h.settled y r hy hr
  · by_cases hyt : y = t.id
    · subst hyt; exact h.actors.pendingFresh _ (List.getElem?_mem hi) _ (.head _)
    · rw [hcount, if_neg (Ne.symm hyt), Nat.add_zero] at hy
      exact h.entryFresh y hy

theorem Inv.store (h : Inv q s as ids) {t : Task} {w : Nat} (hi : as[i]? = some (.store t w)) :
    Inv q ((Cmd.set t.id t 0).run s).2 (as.set i (.index t w)) ids := by
  obtain ⟨hn, hc⟩ := h.facts _ (List.getElem?_mem hi)
  have hr : ∀ y, y ≠ t.id → ((Cmd.set t.id t 0).run s).2.records y = s.records y :=
    fun y hy => Function.update_noteq hy _ _
  exact h.move hi (.inr rfl) (frame_write hr rfl rfl) rfl rfl (by simp [Actor.holds])
    (by simp [Actor.pending]) (fun _ => id) (h.keyed_set t 0) h.once (h.settled_write hc hr rfl)
    h.indexFresh h.entryFresh ⟨hn, hc⟩

theorem Inv.index (h : Inv q s as ids) {t : Task} {w : Nat} (hi : as[i]? = some (.index t w))
    (score : Int) : Inv q ((Cmd.zadd score t.id).run s).2 (as.set i .done) ids := by
  have hmem : ∀ y, y ∈ ((Cmd.zadd score t.id).run s).2.scheduled ↔
      y = (t.id, score) ∨ (y ∈ s.scheduled ∧ y.1 ≠ t.id) := by
    simp [Cmd.run, mem_insertByScore]
  refine h.move hi (.inr rfl) (fun y hy => ⟨rfl, ?_, rfl⟩) rfl rfl (by simp [Actor.holds])
    (by simp [Actor.pending]) (by simp [Actor.storing]) h.keyed h.once h.settled (fun y hy => ?_)
    h.entryFresh trivial
  · simp only [List.mem_map, hmem]
    constructor
    · rintro ⟨z, hz | ⟨hz, -⟩, rfl⟩
      · exact absurd (by rw [hz]) hy
      · exact ⟨z, hz, rfl⟩
    · rintro ⟨z, hz, rfl⟩
      exact ⟨z, .inr ⟨hz, hy⟩, rfl⟩
  · rcases (hmem y).1 hy with rfl | ⟨hy, -⟩
    · exact h.actors.storingFresh _ (List.getElem?_mem hi) _ rfl
    · exact h.indexFresh y hy

theorem Inv.unstore (h : Inv q s as ids) {t : Task} {e : Error}
    (hi : as[i]? = some (.unstore t e)) :
    Inv q ((Cmd.del t.id).run s).2 (as.set i .done) ids := by
  obtain ⟨-, hc⟩ := h.facts _ (List.getElem?_mem hi)
  have hr : ∀ y, y ≠ t.id → ((Cmd.del t.id).run s).2.records y = s.records y :=
    fun y hy => Function.update_noteq hy _ _
  refine h.move hi (.inr rfl) (frame_write hr rfl rfl) rfl rfl (by simp [Actor.holds])
    (by simp [Actor.pending]) (by simp [Actor.storing]) (fun y r hy => ?_) h.once
    (h.settled_write hc hr rfl) h.indexFresh h.entryFresh trivial
  by_cases hyt : y = t.id
  · subst hyt; simp [Cmd.run] at hy
  · exact h.keyed y r (hr y hyt ▸ hy)

theorem Actor.after_error {a : Actor} {β : Type} {c : Cmd β} {next : Except Error β → Actor}
    (hm : a.move q = .cmd c next) (e : Error) (hf : a.Facts q s) :
    ((next (.error e)).holds → a.holds) ∧ (∀ id ∈ (next (.error e)).pending, id ∈ a.pending) ∧
      (∀ id, (next (.error e)).storing = some id → a.storing = some id) ∧
      (next (.error e)).Facts q s := by
  cases a with
  | loop ids' => cases ids' <;> cases hm <;> simp [afterGet, holds, pending, storing, Facts]
  | index t w => cases hm; exact ⟨by simp [holds], by simp [pending], fun _ => id, hf⟩
  | acquire | due | store | unstore => cases hm; simp [holds, pending, storing, Facts]
  | drop | persist | append => cases hm; simp [holds, pending, storing, Facts]; exact fun _ => .inr
  | clock | promote | done => cases hm

theorem Inv.fault (h : Inv q s as ids) (hi : as[i]? = some a) {β : Type} {c : Cmd β}
    {next : Except Error β → Actor} (hm : a.move q = .cmd c next) :
    Inv q s (as.set i (next (.error storeFailure))) ids := by
  obtain ⟨hh, hp, hs, hf⟩ := Actor.after_error hm storeFailure (h.facts a (List.getElem?_mem hi))
  exact h.set_same hi hh (fun id hid => .inl (hp id hid)) hs hf

/-- Every reply to an actor's store command keeps the invariant. -/
theorem Inv.redis (h : Inv q s as ids) (hi : as[i]? = some a) {β : Type} {c : Cmd β}
    {next : Except Error β → Actor} (hm : a.move q = .cmd c next) :
    Inv q (c.run s).2 (as.set i (next (c.run s).1)) ids := by
  cases a with
  | acquire =>
    cases hm
    simp only [Cmd.run]
    split
    · exact h.acquire hi (by decide) ‹_›
    · exact h.set_same hi (by simp [Actor.holds]) (by simp [Actor.pending])
        (by simp [Actor.storing]) trivial
  | due now => cases hm; exact h.due hi _
  | loop ids' =>
    cases ids' with
    | nil => cases hm; exact h.release hi
    | cons id rest => cases hm; exact h.get hi
  | drop id rest => cases hm; exact h.zrem hi
  | persist id t rest => cases hm; exact h.persist hi _
  | append id t rest => cases hm; exact h.append hi
  | store t w => cases hm; exact h.store hi
  | index t w => cases hm; exact h.index hi _
  | unstore t e => cases hm; exact h.unstore hi
  | clock | promote | done => cases hm

/-- Every clock reading of an actor keeps the invariant. -/
theorem Inv.time (h : Inv q s as ids) (hi : as[i]? = some a) {next : Nat → Actor}
    (hm : a.move q = .time next) (now : Nat) : Inv q s (as.set i (next now)) ids := by
  cases a with
  | clock =>
    cases hm
    exact h.set_same hi (fun _ => rfl) (by simp [Actor.pending]) (by simp [Actor.storing]) trivial
  | promote id t rest => cases hm; exact h.promote hi now
  | loop ids' => cases ids' <;> cases hm
  | acquire | due | drop | persist | append | done | store | index | unstore => cases hm

theorem Inv.tick (h : Inv q s as ids) (n : Nat)
    (hk : (∃ b ∈ as, b.holds) → ∀ e, s.lock = some e → s.clock < e → s.clock + n < e) :
    Inv q { s with clock := s.clock + n } as ids := by
  refine ⟨h.actors, fun b hb hbh => ?_, h.keyed, h.once, h.settled, h.facts, h.indexFresh,
    h.entryFresh⟩
  obtain ⟨e, he, hlt⟩ := h.lease b hb hbh
  exact ⟨e, he, hk ⟨b, hb, hbh⟩ e he hlt⟩

theorem Actors.mono (h : Actors as ids) {ids' : List String} (hsub : ids ⊆ ids') :
    Actors as ids' :=
  ⟨h.single, h.storing, h.unmentioned, fun b hb id hid => hsub (h.pendingFresh b hb id hid),
    fun b hb id hid => hsub (h.storingFresh b hb id hid)⟩

theorem Actors.append (h : Actors as ids) (hh : a'.holds = false) (hp : a'.pending = [])
    (hs : ∀ id, a'.storing = some id → id ∈ ids ∧ ∀ b ∈ as, b.storing ≠ some id ∧ id ∉ b.pending) :
    Actors (as ++ [a']) ids := by
  refine ⟨h.single.append fun hn => by simp [hh] at hn,
    fun id => (h.storing id).append fun hn b hb => ((hs id hn).2 b hb).1, ?_, ?_, ?_⟩
  · intro x hx y hy id hxs hyp
    rcases List.mem_append.1 hy with hy | hy
    · rcases List.mem_append.1 hx with hx | hx
      · exact h.unmentioned x hx y hy id hxs hyp
      · rw [List.mem_singleton.1 hx] at hxs
        exact ((hs id hxs).2 y hy).2 hyp
    · simp [List.mem_singleton.1 hy, hp] at hyp
  · intro b hb id hid
    rcases List.mem_append.1 hb with hb | hb
    · exact h.pendingFresh b hb id hid
    · simp [List.mem_singleton.1 hb, hp] at hid
  · intro b hb id hid
    rcases List.mem_append.1 hb with hb | hb
    · exact h.storingFresh b hb id hid
    · rw [List.mem_singleton.1 hb] at hid
      exact (hs id hid).1

theorem Inv.start (h : Inv q s as ids) (c : Entry)
    (hc : ∀ id ∈ [c].filterMap Entry.taskId, id ∉ ids) :
    Inv q s (as ++ [c.actor]) (ids ++ [c].filterMap Entry.taskId) := by
  have hsub : ids ⊆ ids ++ [c].filterMap Entry.taskId := List.subset_append_left _ _
  have hnew : c.actor.holds = false ∧ c.actor.Facts q s ∧
      Actors (as ++ [c.actor]) (ids ++ [c].filterMap Entry.taskId) := by
    cases c with
    | processDueTasks =>
      exact ⟨rfl, trivial,
        (h.actors.mono hsub).append rfl rfl (by simp [Entry.actor, Actor.storing])⟩
    | scheduleTask t w =>
      have ht : t.id ∉ ids := hc t.id (by simp [Entry.taskId])
      refine ⟨rfl, ⟨fun hmem => ?_, Nat.eq_zero_of_not_pos fun hpos => ht (h.entryFresh _ hpos)⟩,
        (h.actors.mono hsub).append rfl rfl ?_⟩
      · obtain ⟨y, hy, hyt⟩ := List.mem_map.1 hmem
        exact ht (hyt ▸ h.indexFresh y hy)
      · simp only [Entry.actor, Actor.storing, Option.some.injEq]
        rintro _ rfl
        exact ⟨by simp [Entry.taskId], fun b hb =>
          ⟨fun hbs => ht (h.actors.storingFresh b hb _ hbs),
            fun hbp => ht (h.actors.pendingFresh b hb _ hbp)⟩⟩
  refine ⟨hnew.2.2, fun b hb hbh => ?_, h.keyed, h.once, h.settled, fun b hb => ?_,
    fun y hy => hsub (h.indexFresh y hy), fun y hy => hsub (h.entryFresh y hy)⟩
  · rcases List.mem_append.1 hb with hb | hb
    · exact h.lease b hb hbh
    · simp [List.mem_singleton.1 hb, hnew.1] at hbh
  · rcases List.mem_append.1 hb with hb | hb
    · exact h.facts b hb
    · exact List.mem_singleton.1 hb ▸ hnew.2.1

end Preservation


/-! ## Runs of the scheduler -/

theorem Actor.move_ne_call (a : Actor) (t : Task) (next : Outcome → Actor) :
    a.move q ≠ .call t next := by
  cases a with
  | loop ids => cases ids <;> intro h <;> cases h
  | _ => intro h; cases h

variable (q) in
/-- The procedures in flight stand at actors that keep the invariant, with the ids of the
`ScheduleTask` calls started so far. -/
def Consistent (s : Sys Entry) : Prop :=
  ∃ as, s.running = as.map (Actor.prog q) ∧ Inv q s.store as (s.calls.filterMap Entry.taskId)

variable (q) in
/-- Time passes in the step only as far as a live lease allows: while a procedure in flight
stands between its won `SETNX` and its `Del`, the clock stays before the lock's expiry. -/
def LeaseKept (s s' : Sys Entry) : Prop :=
  (∃ a : Actor, a.holds ∧ a.prog q ∈ s.running) →
    ∀ e, s.store.lock = some e → s.store.clock < e → s'.store.clock < e

variable (q) in
def KeptStep (s s' : Sys Entry) : Prop := Step (Entry.prog q) s s' ∧ LeaseKept q s s'

theorem Consistent.step {s s' : Sys Entry} (h : Consistent q s) (hs : KeptStep q s s')
    (hids : (s'.calls.filterMap Entry.taskId).Nodup) : Consistent q s' := by
  obtain ⟨as, hr, hI⟩ := h
  obtain ⟨hstep, hkept⟩ := hs
  cases hstep with
  | start c =>
    refine ⟨as ++ [c.actor], by simp [hr, Entry.prog_eq], ?_⟩
    rw [List.filterMap_append] at hids ⊢
    exact hI.start c fun id hid hmem => (List.nodup_append.1 hids).2.2 hmem hid
  | finish i _ => exact ⟨as.eraseIdx i, by rw [hr, map_eraseIdx], hI.eraseIdx i⟩
  | crash i _ => exact ⟨as.eraseIdx i, by rw [hr, map_eraseIdx], hI.eraseIdx i⟩
  | redis i c k hk =>
    rw [hr] at hk
    obtain ⟨a, hi, hp⟩ := getElem?_map_prog (Actor.prog_eq q) hk
    obtain ⟨next, hm, rfl⟩ := Move.prog_eq_redis hp
    exact ⟨_, by simp [hr], hI.redis hi hm⟩
  | fault i c k hk =>
    rw [hr] at hk
    obtain ⟨a, hi, hp⟩ := getElem?_map_prog (Actor.prog_eq q) hk
    obtain ⟨next, hm, rfl⟩ := Move.prog_eq_redis hp
    exact ⟨_, by simp [hr], hI.fault hi hm⟩
  | time i k hk =>
    rw [hr] at hk
    obtain ⟨a, hi, hp⟩ := getElem?_map_prog (Actor.prog_eq q) hk
    obtain ⟨next, hm, rfl⟩ := Move.prog_eq_time hp
    exact ⟨_, by simp [hr], hI.time hi hm s.store.clock⟩
  | handler i t k o hk =>
    rw [hr] at hk
    obtain ⟨a, -, hp⟩ := getElem?_map_prog (Actor.prog_eq q) hk
    obtain ⟨next, hm, -⟩ := Move.prog_eq_handler hp
    exact absurd hm (Actor.move_ne_call _ _ _)
  | tick n =>
    exact ⟨as, hr, hI.tick n fun ⟨b, hb, hbh⟩ => hkept ⟨b, hbh, hr ▸ List.mem_map_of_mem _ hb⟩⟩

theorem Consistent.run {s₀ s : Sys Entry} (h₀ : Consistent q s₀)
    (hrun : Relation.ReflTransGen (KeptStep q) s₀ s)
    (hids : (s.calls.filterMap Entry.taskId).Nodup) :
    Consistent q s := by
  induction hrun with
  | refl => exact h₀
  | tail _ hstep ih =>
    exact (ih (hids.sublist (hstep.1.calls_grow.filterMap _).sublist)).step hstep hids

theorem streamCount_of_lane {s : Store} {key name : String} {g : Group}
    (h : s.lane key name = some ([], g)) (id : String) : streamCount s key id = 0 := by
  obtain ⟨st, hg, hst⟩ := Store.lane_eq_some.1 h
  simp [streamCount, (Store.group_eq_some.1 hg).1, hst]

theorem Inv.initial (cfg : Config) : Inv cfg.queue cfg.initialStore [] [] := by
  have hzero : ∀ id, entryCount cfg.queue cfg.initialStore id = 0 := fun id => by
    simp [entryCount, RedisQueue.priorities, streamCount_of_lane (cfg.initialStore_lane _)]
  obtain ⟨streams, he⟩ := cfg.initialStore_eq
  refine ⟨⟨fun _ _ _ _ h => by simp at h, fun _ _ _ _ _ h => by simp at h, by simp, by simp,
    by simp⟩, by simp, fun id r h => ?_, fun id => by simp [hzero],
    fun id r h => by simp [hzero] at h, by simp, fun y hy => ?_, fun id h => by simp [hzero] at h⟩
  · rw [he] at h; cases h
  · rw [he] at hy; cases hy

/-- Scheduler instances that finish their rounds within the lease never activate a task twice:
under any interleaving, store failure and crash, every task has at most one stream entry. -/
theorem activated_at_most_once_within_lease (cfg : Config) {s : Sys Entry}
    (hrun : Relation.ReflTransGen (KeptStep cfg.queue) ⟨cfg.initialStore, [], [], []⟩ s)
    (hids : (s.calls.filterMap Entry.taskId).Nodup) (id : String) :
    entryCount cfg.queue s.store id ≤ 1 := by
  obtain ⟨as, -, hI⟩ := Consistent.run ⟨[], rfl, Inv.initial cfg⟩ hrun hids
  exact hI.once id


/-! ## Replayed runs -/

theorem kept_of_exec {s s' : Sys Entry} {c : Choice Entry} (hc : c.isTick = false)
    (h : s.exec (Entry.prog q) c = some s') : Relation.ReflTransGen (KeptStep q) s s' := by
  rcases Sys.exec_step h with rfl | hstep
  · exact .refl
  · exact .single ⟨hstep, fun _ e _ hlt => by rw [Sys.exec_clock h hc]; exact hlt⟩

theorem execAll_kept : ∀ {s s' : Sys Entry} {cs : List (Choice Entry)},
    cs.all (fun c => !c.isTick) = true → s.execAll (Entry.prog q) cs = some s' →
      Relation.ReflTransGen (KeptStep q) s s'
  | _, _, [], _, h => by cases h; exact .refl
  | _, _, _ :: _, hcs, h => by
    simp only [List.all_cons, Bool.and_eq_true, Bool.not_eq_true'] at hcs
    simp only [Sys.execAll, Option.bind_eq_some] at h
    obtain ⟨s₁, h₁, h₂⟩ := h
    exact (kept_of_exec hcs.1 h₁).trans (execAll_kept hcs.2 h₂)

theorem keptReach_of_replay {s₀ : Sys Entry} (cs : List (Choice Entry))
    (hcs : cs.all (fun c => !c.isTick) = true) (p : Sys Entry → Prop) [DecidablePred p]
    (h : (s₀.execAll (Entry.prog q) cs).elim false (fun s => decide (p s)) = true) :
    ∃ s, Relation.ReflTransGen (KeptStep q) s₀ s ∧ p s := by
  cases e : s₀.execAll (Entry.prog q) cs with
  | none => simp [e] at h
  | some s => exact ⟨s, execAll_kept hcs e, by simpa [e] using h⟩

def plain : Config := Config.default []

def advance (i n : Nat) : List (Choice Entry) := List.replicate n (.run i (.ok none))

def dueTask : Task := { new "t1" "email" .normal 0 with state := .scheduled }

def stored : List (Choice Entry) := .start (.scheduleTask dueTask 0) :: advance 0 3

def activatedOnce : List (Choice Entry) := stored ++ .start .processDueTasks :: advance 0 10

theorem activated_once_within_lease :
    ∃ s, Relation.ReflTransGen (KeptStep plain.queue) ⟨plain.initialStore, [], [], []⟩ s ∧
      (s.calls.filterMap Entry.taskId).Nodup ∧ entryCount plain.queue s.store "t1" = 1 ∧
      entryCount plain.queue s.store "t1" ≤ 1 := by
  obtain ⟨s, hrun, hids, hone⟩ : ∃ s, Relation.ReflTransGen (KeptStep plain.queue)
      ⟨plain.initialStore, [], [], []⟩ s ∧ (s.calls.filterMap Entry.taskId).Nodup ∧
      entryCount plain.queue s.store "t1" = 1 :=
    keptReach_of_replay activatedOnce (by decide) _ (by decide)
  exact ⟨s, hrun, hids, hone, activated_at_most_once_within_lease plain hrun hids "t1"⟩

/-- The lease runs out while the first instance stands between its `GET` and its write: a second
instance wins `SETNX` and activates the task, then the first one activates it again. -/
def expiredLease : List (Choice Entry) :=
  stored ++ .start .processDueTasks :: advance 0 4 ++
    .tick schedulerLockTTL :: .start .processDueTasks :: advance 1 10 ++ advance 0 6

theorem expired_lease_activates_twice :
    ∃ s, Relation.ReflTransGen (Step (Entry.prog plain.queue)) ⟨plain.initialStore, [], [], []⟩ s ∧
      (s.calls.filterMap Entry.taskId).Nodup ∧ entryCount plain.queue s.store "t1" = 2 :=
  Sys.reach_of_replay expiredLease _ (by decide)

end TaskQueue.Lease
