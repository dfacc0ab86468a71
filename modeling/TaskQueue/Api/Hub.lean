import Mathlib.Data.List.Nodup
import Mathlib.Logic.Relation
set_option autoImplicit false

namespace TaskQueue.WebSocket

structure Event where
  type : String
  data : String
  deriving DecidableEq, Repr

def sendBufferSize : Nat := 256

def broadcastBufferSize : Nat := 256

def eventChBufferSize : Nat := 100

/-- The two ways a channel operation of the hub can panic; each names the client whose `send`
channel it was. -/
inductive Panic
  | closeOfClosedChannel (c : Nat)
  | sendOnClosedChannel (c : Nat)
  deriving DecidableEq, Repr

/-- A `Client` as the hub and its pumps see it: its subscriptions, the messages buffered in its
`send` channel and whether that channel is closed, what `WritePump` has written to the peer, and
whether `WritePump` has returned. -/
structure Client where
  subscriptions : List String
  send : List Event
  sendClosed : Bool
  written : List Event
  writerDone : Bool
  deriving DecidableEq, Repr

namespace Client

def new : Client := ⟨[], [], false, [], false⟩

def subscribe (t : String) (cl : Client) : Client :=
  { cl with subscriptions := cl.subscriptions.insert t }

def unsubscribe (t : String) (cl : Client) : Client :=
  { cl with subscriptions := cl.subscriptions.filter (· ≠ t) }

def subscribeAll (cl : Client) : Client :=
  ["task.submitted", "task.started", "task.completed", "task.failed", "task.retrying",
    "worker.joined", "worker.left", "worker.paused", "worker.resumed", "queue.depth",
    "system.metrics"].foldl (fun cl t => cl.subscribe t) cl

def isSubscribed (cl : Client) (t : String) : Bool :=
  if cl.subscriptions.length = 0 then true else t ∈ cl.subscriptions

def closeSend (c : Nat) (cl : Client) : Except Panic Client :=
  if cl.sendClosed then .error (.closeOfClosedChannel c) else .ok { cl with sendClosed := true }

def trySend (c : Nat) (cl : Client) (m : Event) : Except Panic (Option Client) :=
  if cl.sendClosed then .error (.sendOnClosedChannel c)
  else if cl.send.length < sendBufferSize then .ok (some { cl with send := cl.send ++ [m] })
  else .ok none

end Client

/-- The hub and the goroutines around it: the channels' buffers, the goroutines blocked on
`h.unregister` or on `h.broadcast`, and as history the clients `ServeWS` made, the events the
subscription delivered and those the loop took. -/
structure Hub where
  clients : List Nat
  client : Nat → Client
  broadcast : List Event
  unregisterQueue : List Nat
  eventCh : List Event
  forwarding : Option Event
  forwarderDone : Bool
  loopDone : Bool
  stopCh : Bool
  connected : List Nat
  received : List Event
  processed : List Event

namespace Hub

def init : Hub := ⟨[], fun _ => Client.new, [], [], [], none, false, false, false, [], [], []⟩

def setClient (h : Hub) (c : Nat) (cl : Client) : Hub :=
  { h with client := Function.update h.client c cl }

def register (h : Hub) (c : Nat) : Hub := { h with clients := h.clients.insert c }

def drop (h : Hub) (c : Nat) : Except Panic Hub := do
  let cl ← (h.client c).closeSend c
  return { h.setClient c cl with clients := h.clients.erase c }

def unregister (h : Hub) (c : Nat) : Except Panic Hub :=
  if c ∈ h.clients then h.drop c else pure h

def broadcastTo (e : Event) (h : Hub) (c : Nat) : Except Panic Hub :=
  if (h.client c).isSubscribed e.type then do
    match ← (h.client c).trySend c e with
    | some cl => return h.setClient c cl
    | none => return { h with unregisterQueue := h.unregisterQueue ++ [c] }
  else pure h

def broadcastEvent (h : Hub) (e : Event) : Except Panic Hub :=
  h.clients.foldlM (broadcastTo e) h

def closeAllClients (h : Hub) : Except Panic Hub :=
  h.clients.foldlM drop h

end Hub

inductive Act
  /-- `ServeWS` for a new connection: `NewClient`, `SubscribeAll`, `Register`. -/
  | connect (c : Nat)
  /-- `ReadPump` returns; its deferred `Unregister` blocks until the loop receives it. -/
  | disconnect (c : Nat)
  /-- The loop receives the `i`-th blocked send on `h.unregister`. -/
  | unregister (i : Nat)
  /-- A message of the Redis subscription reaches the goroutine of `SubscribeAll`. -/
  | receive (e : Event)
  /-- The forwarding goroutine's select takes an event from `eventCh`. -/
  | forwardTake
  /-- Its `h.broadcast <- event` completes. -/
  | forwardSend
  /-- Its select takes `stopCh`. -/
  | forwardExit
  /-- The loop receives from `h.broadcast` and runs `broadcastEvent`. -/
  | broadcast
  /-- The loop's select takes `stopCh`: `closeAllClients`, then the loop returns. -/
  | stopLoop
  /-- `Stop` closes `stopCh`; the server calls it once. -/
  | stop
  /-- Client `c`'s `WritePump` receives from `c.send`. -/
  | write (c : Nat)
  /-- A write to client `c`'s connection fails and its `WritePump` returns. -/
  | writeFail (c : Nat)
  deriving DecidableEq, Repr

namespace Hub

/-- One step: `none` when the step is blocked, an error when it panics. -/
def step (h : Hub) : Act → Option (Except Panic Hub)
  | .connect c =>
    if c ∈ h.connected ∨ h.loopDone then none
    else some (.ok ({ h.setClient c Client.new.subscribeAll with
      connected := h.connected ++ [c] }.register c))
  | .disconnect c =>
    if c ∈ h.connected then some (.ok { h with unregisterQueue := h.unregisterQueue ++ [c] })
    else none
  | .unregister i =>
    match h.loopDone, h.unregisterQueue[i]? with
    | false, some c => some ({ h with unregisterQueue := h.unregisterQueue.eraseIdx i }.unregister c)
    | _, _ => none
  | .receive e =>
    some (.ok { h with
      received := h.received ++ [e]
      eventCh := if h.eventCh.length < eventChBufferSize then h.eventCh ++ [e] else h.eventCh })
  | .forwardTake =>
    match h.forwarding, h.forwarderDone, h.eventCh with
    | none, false, e :: rest => some (.ok { h with forwarding := some e, eventCh := rest })
    | _, _, _ => none
  | .forwardSend =>
    match h.forwarding with
    | some e =>
      if h.broadcast.length < broadcastBufferSize then
        some (.ok { h with forwarding := none, broadcast := h.broadcast ++ [e] })
      else none
    | none => none
  | .forwardExit =>
    if h.stopCh ∧ h.forwarding = none ∧ h.forwarderDone = false then
      some (.ok { h with forwarderDone := true })
    else none
  | .broadcast =>
    match h.loopDone, h.broadcast with
    | false, e :: rest =>
      some ({ h with broadcast := rest, processed := h.processed ++ [e] }.broadcastEvent e)
    | _, _ => none
  | .stopLoop =>
    if h.stopCh ∧ h.loopDone = false then
      some (do let h ← h.closeAllClients; return { h with loopDone := true })
    else none
  | .stop => if h.stopCh then none else some (.ok { h with stopCh := true })
  | .write c =>
    if (h.client c).writerDone then none
    else match (h.client c).send with
      | m :: rest =>
        some (.ok (h.setClient c { h.client c with send := rest, written := (h.client c).written ++ [m] }))
      | [] =>
        if (h.client c).sendClosed then some (.ok (h.setClient c { h.client c with writerDone := true }))
        else none
  | .writeFail c =>
    if c ∈ h.connected ∧ (h.client c).writerDone = false then
      some (.ok (h.setClient c { h.client c with writerDone := true }))
    else none

def Next (h h' : Hub) : Prop := ∃ a, h.step a = some (.ok h')

def Reaches : Hub → Hub → Prop := Relation.ReflTransGen Next

def Reachable (h : Hub) : Prop := Reaches init h

end Hub

@[simp] theorem except_ok_bind {ε α β : Type} (a : α) (f : α → Except ε β) :
    (Except.ok a >>= f) = f a := rfl

@[simp] theorem except_pure {ε α : Type} (a : α) : (pure a : Except ε α) = .ok a := rfl

namespace Client

variable {cl : Client} {e : Event} {t : String}

@[simp] theorem new_send : Client.new.send = [] := rfl
@[simp] theorem new_written : Client.new.written = [] := rfl
@[simp] theorem new_sendClosed : Client.new.sendClosed = false := rfl
@[simp] theorem subscribe_send : (cl.subscribe t).send = cl.send := rfl
@[simp] theorem subscribe_written : (cl.subscribe t).written = cl.written := rfl
@[simp] theorem subscribe_sendClosed : (cl.subscribe t).sendClosed = cl.sendClosed := rfl
@[simp] theorem subscribeAll_send : cl.subscribeAll.send = cl.send := by simp [subscribeAll]
@[simp] theorem subscribeAll_written : cl.subscribeAll.written = cl.written := by simp [subscribeAll]

@[simp] theorem subscribeAll_sendClosed : cl.subscribeAll.sendClosed = cl.sendClosed := by
  simp [subscribeAll]

theorem subscribeAll_new_ne_nil : Client.new.subscribeAll.subscriptions ≠ [] := by decide

def deliver (e : Event) (cl : Client) : Client :=
  { cl with
    send := cl.send ++ if cl.isSubscribed e.type ∧ cl.send.length < sendBufferSize then [e] else [] }

def overflows (e : Event) (cl : Client) : Bool :=
  cl.isSubscribed e.type ∧ ¬cl.send.length < sendBufferSize

theorem deliver_of_not (hd : ¬(cl.isSubscribed e.type ∧ cl.send.length < sendBufferSize)) :
    cl.deliver e = cl := by
  simp [deliver, hd]

theorem closeSend_of_open (c : Nat) (hc : cl.sendClosed = false) :
    cl.closeSend c = .ok { cl with sendClosed := true } := by
  simp [closeSend, hc]

theorem deliver_sublist {p : List Event} (hp : (cl.written ++ cl.send).Sublist p) :
    ((cl.deliver e).written ++ (cl.deliver e).send).Sublist (p ++ [e]) := by
  simp only [deliver, ← List.append_assoc]
  split
  · exact hp.append (List.Sublist.refl _)
  · simpa using hp.trans (List.sublist_append_left p [e])

end Client

theorem foldl_erase_self (L : List Nat) : L.foldl List.erase L = [] := by
  induction L with
  | nil => rfl
  | cons c L ih => simpa using ih

namespace Hub

variable {h : Hub} {e : Event}

@[simp] theorem setClient_client (c : Nat) (cl : Client) :
    (h.setClient c cl).client = Function.update h.client c cl := rfl

theorem broadcastTo_of_open (c : Nat) (hc : (h.client c).sendClosed = false) :
    broadcastTo e h c = .ok { h with
      client := Function.update h.client c ((h.client c).deliver e)
      unregisterQueue := h.unregisterQueue ++ if (h.client c).overflows e then [c] else [] } := by
  by_cases hd : (h.client c).isSubscribed e.type ∧ (h.client c).send.length < sendBufferSize
  · simp [broadcastTo, Client.trySend, Client.deliver, Client.overflows, hd, hc, setClient]
  · rw [Client.deliver_of_not hd, Function.update_eq_self]
    by_cases hs : (h.client c).isSubscribed e.type
    · simp [broadcastTo, Client.trySend, Client.overflows, hs, hc, show ¬_ from fun hl => hd ⟨hs, hl⟩]
    · simp [broadcastTo, Client.overflows, hs]

theorem foldlM_broadcastTo : ∀ (L : List Nat) (h : Hub), L.Nodup →
    (∀ c ∈ L, (h.client c).sendClosed = false) →
    L.foldlM (broadcastTo e) h = .ok { h with
      client := fun d => if d ∈ L then (h.client d).deliver e else h.client d
      unregisterQueue := h.unregisterQueue ++ L.filter fun d => (h.client d).overflows e }
  | [], h, _, _ => by simp
  | c :: L, h, hnd, hopen => by
    rw [List.nodup_cons] at hnd
    have hne : ∀ d ∈ L, d ≠ c := fun d hd hdc => hnd.1 (hdc ▸ hd)
    rw [List.foldlM_cons, broadcastTo_of_open c (hopen c (List.mem_cons_self c L)), except_ok_bind,
      foldlM_broadcastTo L _ hnd.2 fun d hd => by
        simpa [Function.update_noteq (hne d hd)] using hopen d (List.mem_cons_of_mem c hd)]
    congr 2
    · funext d
      by_cases hdc : d = c
      · subst hdc; simp [hnd.1]
      · simp [hdc]
    · have hL : L.filter (fun d => (Function.update h.client c ((h.client c).deliver e) d).overflows e) =
          L.filter fun d => (h.client d).overflows e :=
        List.filter_congr fun d hd => by rw [Function.update_noteq (hne d hd)]
      simp only [hL, List.filter_cons]
      split <;> simp

theorem broadcastEvent_of_open (hnd : h.clients.Nodup)
    (hopen : ∀ c ∈ h.clients, (h.client c).sendClosed = false) :
    h.broadcastEvent e = .ok { h with
      client := fun d => if d ∈ h.clients then (h.client d).deliver e else h.client d
      unregisterQueue := h.unregisterQueue ++ h.clients.filter fun d => (h.client d).overflows e } :=
  foldlM_broadcastTo h.clients h hnd hopen

theorem drop_of_open (c : Nat) (hc : (h.client c).sendClosed = false) :
    h.drop c = .ok { h with
      clients := h.clients.erase c
      client := Function.update h.client c { h.client c with sendClosed := true } } := by
  simp [drop, Client.closeSend_of_open c hc, setClient]

theorem foldlM_drop : ∀ (L : List Nat) (h : Hub), L.Nodup →
    (∀ c ∈ L, (h.client c).sendClosed = false) →
    L.foldlM drop h = .ok { h with
      clients := L.foldl List.erase h.clients
      client := fun d => if d ∈ L then { h.client d with sendClosed := true } else h.client d }
  | [], h, _, _ => by simp
  | c :: L, h, hnd, hopen => by
    rw [List.nodup_cons] at hnd
    have hne : ∀ d ∈ L, d ≠ c := fun d hd hdc => hnd.1 (hdc ▸ hd)
    rw [List.foldlM_cons, drop_of_open c (hopen c (List.mem_cons_self c L)), except_ok_bind,
      foldlM_drop L _ hnd.2 fun d hd => by
        simpa [Function.update_noteq (hne d hd)] using hopen d (List.mem_cons_of_mem c hd)]
    congr 2
    funext d
    by_cases hdc : d = c
    · subst hdc; simp [hnd.1]
    · simp [hdc]

theorem closeAllClients_of_open (hnd : h.clients.Nodup)
    (hopen : ∀ c ∈ h.clients, (h.client c).sendClosed = false) :
    h.closeAllClients = .ok { h with
      clients := []
      client := fun d => if d ∈ h.clients then { h.client d with sendClosed := true } else h.client d } := by
  rw [closeAllClients, foldlM_drop h.clients h hnd hopen, foldl_erase_self]

/-- What every reachable hub satisfies: registered clients are distinct, connected and open,
the others closed, and every channel keeps the order of what came before it. -/
structure Inv (h : Hub) : Prop where
  nodup : h.clients.Nodup
  connected_of_mem : ∀ c ∈ h.clients, c ∈ h.connected
  open_of_mem : ∀ c ∈ h.clients, (h.client c).sendClosed = false
  closed_of_not_mem : ∀ c ∈ h.connected, c ∉ h.clients → (h.client c).sendClosed = true
  clients_of_loopDone : h.loopDone = true → h.clients = []
  fresh : ∀ c ∉ h.connected, h.client c = Client.new
  subscriptions : ∀ c ∈ h.connected,
    (h.client c).subscriptions = Client.new.subscribeAll.subscriptions
  typed : ∀ c, ∀ m ∈ (h.client c).written ++ (h.client c).send,
    m.type ∈ Client.new.subscribeAll.subscriptions
  ordered : ∀ c, ((h.client c).written ++ (h.client c).send).Sublist h.processed
  pipeline : (h.processed ++ h.broadcast ++ h.forwarding.toList ++ h.eventCh).Sublist h.received

theorem inv_init : Inv init := by
  refine ⟨List.nodup_nil, ?_, ?_, ?_, ?_, fun _ _ => rfl, ?_, ?_, ?_, ?_⟩ <;> simp [init, Client.new]

variable {h' : Hub}

theorem Inv.isSubscribed (hi : Inv h) {c : Nat} (hc : c ∈ h.clients) (t : String) :
    (h.client c).isSubscribed t = decide (t ∈ Client.new.subscribeAll.subscriptions) := by
  simp [Client.isSubscribed, hi.subscriptions c (hi.connected_of_mem c hc), Client.subscribeAll_new_ne_nil]

theorem Inv.connect (hi : Inv h) {c : Nat} (hc : c ∉ h.connected) (hd : h.loopDone = false) :
    Inv ({ h.setClient c Client.new.subscribeAll with connected := h.connected ++ [c] }.register c) := by
  have hnc : c ∉ h.clients := fun hm => hc (hi.connected_of_mem c hm)
  simp only [register, setClient, List.insert_of_not_mem hnc]
  refine ⟨List.nodup_cons.2 ⟨hnc, hi.nodup⟩, ?_, ?_, ?_, by simp [hd], ?_, ?_, ?_, ?_, hi.pipeline⟩ <;>
    intro d <;> by_cases hdc : d = c
  all_goals try (subst hdc; simp)
  · simpa [hdc] using hi.connected_of_mem d
  · simpa [hdc] using hi.open_of_mem d
  · simpa [hdc] using hi.closed_of_not_mem d
  · simpa [hdc] using hi.fresh d
  · simpa [hdc] using hi.subscriptions d
  · simpa [hdc] using hi.typed d
  · simpa [hdc] using hi.ordered d

theorem Inv.setClient (hi : Inv h) {c : Nat} {cl : Client} (hc : c ∈ h.connected)
    (hs : cl.subscriptions = (h.client c).subscriptions)
    (hclosed : cl.sendClosed = (h.client c).sendClosed)
    (hw : cl.written ++ cl.send = (h.client c).written ++ (h.client c).send) :
    Inv { h with client := Function.update h.client c cl } := by
  have key : ∀ d, (Function.update h.client c cl d).subscriptions = (h.client d).subscriptions ∧
      (Function.update h.client c cl d).sendClosed = (h.client d).sendClosed ∧
      (Function.update h.client c cl d).written ++ (Function.update h.client c cl d).send =
        (h.client d).written ++ (h.client d).send := by
    intro d
    by_cases hdc : d = c
    · subst hdc; simp [hs, hclosed, hw]
    · simp [hdc]
  refine { hi with
    open_of_mem := fun d hd => (key d).2.1.trans (hi.open_of_mem d hd)
    closed_of_not_mem := fun d hd hn => (key d).2.1.trans (hi.closed_of_not_mem d hd hn)
    fresh := fun d hd => by
      dsimp only at hd ⊢
      rw [Function.update_noteq (ne_of_mem_of_not_mem hc hd).symm]
      exact hi.fresh d hd
    subscriptions := fun d hd => (key d).1.trans (hi.subscriptions d hd)
    typed := fun d => by rw [(key d).2.2]; exact hi.typed d
    ordered := fun d => by rw [(key d).2.2]; exact hi.ordered d }

theorem Inv.drop (hi : Inv h) {c : Nat} (hc : c ∈ h.clients) :
    Inv { h with
      clients := h.clients.erase c
      client := Function.update h.client c { h.client c with sendClosed := true } } := by
  have key : ∀ d, (Function.update h.client c { h.client c with sendClosed := true } d).subscriptions =
      (h.client d).subscriptions ∧
      (Function.update h.client c { h.client c with sendClosed := true } d).written ++
        (Function.update h.client c { h.client c with sendClosed := true } d).send =
        (h.client d).written ++ (h.client d).send := by
    intro d
    by_cases hdc : d = c
    · subst hdc; simp
    · simp [hdc]
  have hcc := hi.connected_of_mem c hc
  refine { hi with
    nodup := hi.nodup.erase c
    connected_of_mem := fun d hd => hi.connected_of_mem d (List.mem_of_mem_erase hd)
    open_of_mem := fun d hd => ?_
    closed_of_not_mem := fun d hd hn => ?_
    clients_of_loopDone := fun hl => by simp [hi.clients_of_loopDone hl] at hc
    fresh := fun d hd => by
      dsimp only at hd ⊢
      rw [Function.update_noteq (ne_of_mem_of_not_mem hcc hd).symm]
      exact hi.fresh d hd
    subscriptions := fun d hd => (key d).1.trans (hi.subscriptions d hd)
    typed := fun d => by rw [(key d).2]; exact hi.typed d
    ordered := fun d => by rw [(key d).2]; exact hi.ordered d }
  · rw [hi.nodup.mem_erase_iff] at hd
    simpa [hd.1] using hi.open_of_mem d hd.2
  · by_cases hdc : d = c
    · subst hdc; simp
    · rw [hi.nodup.mem_erase_iff] at hn
      simpa [hdc] using hi.closed_of_not_mem d hd fun hm => hn ⟨hdc, hm⟩

theorem Inv.broadcast (hi : Inv h) {rest : List Event} (hb : h.broadcast = e :: rest) :
    Inv { h with
      broadcast := rest
      processed := h.processed ++ [e]
      client := fun d => if d ∈ h.clients then (h.client d).deliver e else h.client d
      unregisterQueue := h.unregisterQueue ++ h.clients.filter fun d => (h.client d).overflows e } := by
  refine { hi with
    open_of_mem := fun d hd => by simpa [hd, Client.deliver] using hi.open_of_mem d hd
    closed_of_not_mem := fun d hd hn => by simpa [hn] using hi.closed_of_not_mem d hd hn
    fresh := fun d hd => by
      dsimp only at hd ⊢
      rw [if_neg fun hm => hd (hi.connected_of_mem d hm)]
      exact hi.fresh d hd
    subscriptions := fun d hd => by
      dsimp only
      split <;> simpa [Client.deliver] using hi.subscriptions d hd
    typed := fun d => ?_
    ordered := fun d => ?_
    pipeline := by simpa [hb] using hi.pipeline }
  · dsimp only
    split
    · rename_i hd
      intro m hm
      simp only [Client.deliver, ← List.append_assoc] at hm
      rcases List.mem_append.1 hm with hm | hm
      · exact hi.typed d m hm
      · split at hm
        · rename_i hsub
          rw [List.mem_singleton.1 hm]
          simpa [hi.isSubscribed hd] using hsub.1
        · simp at hm
    · exact hi.typed d
  · dsimp only
    split
    · exact Client.deliver_sublist (hi.ordered d)
    · exact (hi.ordered d).trans (List.sublist_append_left _ _)

theorem Inv.closeAll (hi : Inv h) :
    Inv { h with
      clients := []
      client := fun d => if d ∈ h.clients then { h.client d with sendClosed := true } else h.client d
      loopDone := true } := by
  refine { hi with
    nodup := List.nodup_nil
    connected_of_mem := by simp
    open_of_mem := by simp
    closed_of_not_mem := fun d hd _ => by
      by_cases hm : d ∈ h.clients
      · simp [hm]
      · simpa [hm] using hi.closed_of_not_mem d hd hm
    clients_of_loopDone := fun _ => rfl
    fresh := fun d hd => by
      dsimp only at hd ⊢
      rw [if_neg fun hm => hd (hi.connected_of_mem d hm)]
      exact hi.fresh d hd
    subscriptions := fun d hd => by dsimp only; split <;> exact hi.subscriptions d hd
    typed := fun d => by dsimp only; split <;> exact hi.typed d
    ordered := fun d => by dsimp only; split <;> exact hi.ordered d }

theorem Inv.of_step (hi : Inv h) {a : Act} (hs : h.step a = some (.ok h')) : Inv h' := by
  cases a with
  | connect c =>
    simp only [step] at hs
    split_ifs at hs with hc
    cases hs
    exact hi.connect (fun h => hc (Or.inl h)) (by simpa using fun h => hc (Or.inr h))
  | disconnect c =>
    simp only [step] at hs
    split_ifs at hs
    cases hs
    exact { hi with }
  | unregister i =>
    simp only [step] at hs
    split at hs
    · rename_i c _ _
      have hi' : Inv { h with unregisterQueue := h.unregisterQueue.eraseIdx i } := { hi with }
      simp only [Option.some.injEq, Hub.unregister] at hs
      split_ifs at hs with hc
      · rw [drop_of_open (h := { h with unregisterQueue := h.unregisterQueue.eraseIdx i }) c
          (hi.open_of_mem c hc), Except.ok.injEq] at hs
        subst hs
        exact hi'.drop hc
      · cases hs
        exact hi'
    · cases hs
  | receive e =>
    simp only [step] at hs
    cases hs
    refine { hi with pipeline := ?_ }
    dsimp only
    split
    · simpa [← List.append_assoc] using hi.pipeline.append (List.Sublist.refl [e])
    · exact hi.pipeline.trans (List.sublist_append_left _ _)
  | forwardTake =>
    simp only [step] at hs
    split at hs
    · rename_i e rest hf _ he
      cases hs
      exact { hi with pipeline := by simpa [hf, he] using hi.pipeline }
    · cases hs
  | forwardSend =>
    simp only [step] at hs
    split at hs
    · rename_i e hf
      split_ifs at hs
      cases hs
      exact { hi with pipeline := by simpa [hf] using hi.pipeline }
    · cases hs
  | forwardExit =>
    simp only [step] at hs
    split_ifs at hs
    cases hs
    exact { hi with }
  | broadcast =>
    simp only [step] at hs
    split at hs
    · rename_i e rest _ hb
      rw [broadcastEvent_of_open (h := { h with broadcast := rest, processed := h.processed ++ [e] })
        hi.nodup hi.open_of_mem] at hs
      cases hs
      exact hi.broadcast hb
    · cases hs
  | stopLoop =>
    simp only [step] at hs
    split_ifs at hs
    rw [closeAllClients_of_open hi.nodup hi.open_of_mem] at hs
    cases hs
    exact hi.closeAll
  | stop =>
    simp only [step] at hs
    split_ifs at hs
    cases hs
    exact { hi with }
  | write c =>
    have hc : c ∈ h.connected := by
      by_contra hc
      simp [step, hi.fresh c hc, Client.new] at hs
    simp only [step] at hs
    split_ifs at hs <;> split at hs <;> cases hs <;> exact hi.setClient hc rfl rfl (by simp [*])
  | writeFail c =>
    simp only [step] at hs
    split_ifs at hs with hc
    cases hs
    exact hi.setClient hc.1 rfl rfl rfl

theorem Next.of_step {a : Act} (hs : h.step a = some (.ok h')) : Next h h' := ⟨a, hs⟩

theorem Reachable.inv (hr : Reachable h) : Inv h := by
  induction hr with
  | refl => exact inv_init
  | tail _ hn ih =>
    obtain ⟨a, ha⟩ := hn
    exact ih.of_step ha

theorem step_never_panics (hr : Reachable h) (a : Act) (p : Panic) :
    h.step a ≠ some (.error p) := by
  have hi := hr.inv
  intro hs
  cases a with
  | unregister i =>
    simp only [step] at hs
    split at hs
    · simp only [Option.some.injEq, Hub.unregister] at hs
      split_ifs at hs with hc
      · rw [drop_of_open (h := { h with unregisterQueue := h.unregisterQueue.eraseIdx _ }) _
          (hi.open_of_mem _ hc)] at hs
        cases hs
      · cases hs
    · cases hs
  | broadcast =>
    simp only [step] at hs
    split at hs
    · rename_i e rest _ _
      rw [broadcastEvent_of_open (h := { h with broadcast := rest, processed := h.processed ++ [e] })
        hi.nodup hi.open_of_mem] at hs
      cases hs
    · cases hs
  | stopLoop =>
    simp only [step] at hs
    split_ifs at hs
    rw [closeAllClients_of_open hi.nodup hi.open_of_mem] at hs
    cases hs
  | _ =>
    simp only [step] at hs
    repeat' split at hs
    all_goals cases hs

theorem step_never_panics_on_unregister :
    ∃ h, Reachable h ∧ h.step (.unregister 0) ≠ some (.error (.closeOfClosedChannel 0)) := by
  have hr : Reachable _ := ((Relation.ReflTransGen.refl : Reaches init init).tail
    (Next.of_step (a := .connect 0) rfl)).tail (Next.of_step (a := .disconnect 0) rfl)
  exact ⟨_, hr, step_never_panics hr _ _⟩

theorem delivered_reachable :
    ∃ h, Reachable h ∧ (h.client 0).written = [⟨"task.completed", "t1"⟩] :=
  ⟨_, (((((((Relation.ReflTransGen.refl : Reaches init init).tail
    (Next.of_step (a := .connect 0) rfl)).tail
    (Next.of_step (a := .receive ⟨"task.completed", "t1"⟩) rfl)).tail
    (Next.of_step (a := .forwardTake) rfl)).tail (Next.of_step (a := .forwardSend) rfl)).tail
    (Next.of_step (a := .broadcast) rfl)).tail (Next.of_step (a := .write 0) rfl)), rfl⟩

/-- Every client's stream, what its write pump wrote followed by what is still buffered, is a
sublist of the events the Redis subscription delivered: in their order, and no event more often
than it was delivered. -/
theorem client_stream_sublist_received (hr : Reachable h) (c : Nat) :
    ((h.client c).written ++ (h.client c).send).Sublist h.received := by
  have hi := hr.inv
  refine (hi.ordered c).trans (List.Sublist.trans ?_ hi.pipeline)
  simp only [List.append_assoc]
  exact List.sublist_append_left _ _

theorem client_stream_sublist_received_delivered :
    ∃ h, Reachable h ∧ (h.client 0).written = [⟨"task.completed", "t1"⟩] ∧
      ((h.client 0).written ++ (h.client 0).send).Sublist h.received := by
  obtain ⟨h, hr, hw⟩ := delivered_reachable
  exact ⟨h, hr, hw, client_stream_sublist_received hr 0⟩

/-- A client is only ever written events of the eleven types `SubscribeAll` names, although the
Redis subscription takes every channel under its prefix. -/
theorem client_stream_types (hr : Reachable h) (c : Nat) :
    ∀ m ∈ (h.client c).written, m.type ∈ Client.new.subscribeAll.subscriptions :=
  fun m hm => hr.inv.typed c m (List.mem_append_left _ hm)

theorem client_stream_types_delivered :
    ∃ h, Reachable h ∧ (h.client 0).written = [⟨"task.completed", "t1"⟩] ∧
      ∀ m ∈ (h.client 0).written, m.type ∈ Client.new.subscribeAll.subscriptions := by
  obtain ⟨h, hr, hw⟩ := delivered_reachable
  exact ⟨h, hr, hw, client_stream_types hr 0⟩

theorem closed_of_loopDone (hr : Reachable h) (hd : h.loopDone = true) :
    ∀ c ∈ h.connected, (h.client c).sendClosed = true := fun c hc =>
  hr.inv.closed_of_not_mem c hc (by simp [hr.inv.clients_of_loopDone hd])

theorem writePump_drains {c : Nat} : ∀ (l : List Event) (h : Hub), (h.client c).send = l →
    (h.client c).sendClosed = true → (h.client c).writerDone = false →
    ∃ h', Reaches h h' ∧ (h'.client c).writerDone = true ∧
      (h'.client c).written = (h.client c).written ++ l
  | [], h, hs, hc, hw =>
    ⟨_, .single ⟨.write c, by simp [step, hs, hc, hw]; rfl⟩, by simp, by simp⟩
  | m :: l, h, hs, hc, hw => by
    obtain ⟨h', hr, hd, hwr⟩ := writePump_drains (c := c) l
      (h.setClient c { h.client c with send := l, written := (h.client c).written ++ [m] })
      (by simp) (by simpa using hc) (by simpa using hw)
    exact ⟨h', .head ⟨.write c, by simp [step, hs, hw]⟩ hr, hd, by simpa using hwr⟩

/-- Once the hub loop has returned, the write pump of every connected client still running
writes everything left in its buffer and returns: no pump stays blocked on its channel. -/
theorem writePumps_finish_after_loop (hr : Reachable h) (hd : h.loopDone = true) {c : Nat}
    (hc : c ∈ h.connected) (hw : (h.client c).writerDone = false) :
    ∃ h', Reaches h h' ∧ (h'.client c).writerDone = true ∧
      (h'.client c).written = (h.client c).written ++ (h.client c).send :=
  writePump_drains _ h rfl (closed_of_loopDone hr hd c hc) hw

theorem writePumps_finish_after_loop_one_client :
    ∃ h, Reachable h ∧ h.loopDone = true ∧ 0 ∈ h.connected ∧ (h.client 0).writerDone = false ∧
      (h.client 0).send = [⟨"task.completed", "t1"⟩] ∧
      ∃ h', Reaches h h' ∧ (h'.client 0).writerDone = true ∧
        (h'.client 0).written = (h.client 0).written ++ (h.client 0).send := by
  have hr : Reachable _ := ((((((((Relation.ReflTransGen.refl : Reaches init init).tail
    (Next.of_step (a := .connect 0) rfl)).tail
    (Next.of_step (a := .receive ⟨"task.completed", "t1"⟩) rfl)).tail
    (Next.of_step (a := .forwardTake) rfl)).tail (Next.of_step (a := .forwardSend) rfl)).tail
    (Next.of_step (a := .broadcast) rfl)).tail (Next.of_step (a := .stop) rfl)).tail
    (Next.of_step (a := .stopLoop) rfl))
  exact ⟨_, hr, rfl, by decide, rfl, rfl, writePumps_finish_after_loop hr rfl (by decide) rfl⟩

/-- The forwarding goroutine is blocked for good: it holds an event for `h.broadcast`, which is
full, and the loop, the only reader of `h.broadcast`, has returned. -/
def ForwarderStuck (h : Hub) : Prop :=
  h.loopDone = true ∧ h.forwarding.isSome ∧ broadcastBufferSize ≤ h.broadcast.length ∧
    h.forwarderDone = false

theorem ForwarderStuck.of_step (hs : ForwarderStuck h) {a : Act} (ha : h.step a = some (.ok h')) :
    ForwarderStuck h' := by
  obtain ⟨hl, hf, hb, hd⟩ := hs
  obtain ⟨e, he⟩ := Option.isSome_iff_exists.1 hf
  have hb' : ¬h.broadcast.length < broadcastBufferSize := not_lt.2 hb
  cases a <;> simp only [step, hl, he, hd, hb', Bool.true_eq_false, and_false, false_and,
    if_false] at ha <;> (repeat' split at ha) <;> cases ha <;>
    simp_all [ForwarderStuck, setClient, register]

theorem ForwarderStuck.reaches (hs : ForwarderStuck h) (hr : Reaches h h') : ForwarderStuck h' := by
  induction hr with
  | refl => exact hs
  | tail _ hn ih =>
    obtain ⟨a, ha⟩ := hn
    exact ih.of_step ha

def filled (e : Event) (n : Nat) : Hub :=
  { init with received := List.replicate n e, broadcast := List.replicate n e }

def held (e : Event) (n : Nat) : Hub :=
  { filled e n with received := List.replicate (n + 1) e, forwarding := some e }

theorem reaches_held (e : Event) (n : Nat) : Reaches (filled e n) (held e n) := by
  refine .tail (.single (Next.of_step (a := .receive e) rfl)) (Next.of_step (a := .forwardTake) ?_)
  simp [step, filled, held, init, eventChBufferSize, List.replicate_succ']

theorem reachable_filled (e : Event) : ∀ n, n ≤ broadcastBufferSize → Reachable (filled e n)
  | 0, _ => .refl
  | n + 1, hn => by
    refine ((reachable_filled e n (by omega)).trans (reaches_held e n)).tail
      (Next.of_step (a := .forwardSend) ?_)
    simp [step, held, filled, init, show n < broadcastBufferSize by omega, List.replicate_succ']

/-- Stop can block forever: a reachable run leaves the forwarding goroutine holding an event for a
full `h.broadcast` when the loop takes `stopCh`, and from there no run lets the goroutine return,
so the `wg.Wait` of `Stop` never returns. -/
theorem stop_can_block_forever (e : Event) :
    ∃ h, Reachable h ∧ h.stopCh = true ∧ ∀ h', Reaches h h' → h'.forwarderDone = false := by
  let stopped : Hub := { held e broadcastBufferSize with stopCh := true }
  have hr : Reachable { stopped with loopDone := true } :=
    (((reachable_filled e _ le_rfl).trans (reaches_held e _)).tail
      (Next.of_step (a := .stop) rfl)).tail (Next.of_step (a := .stopLoop) rfl)
  have hs : ForwarderStuck { stopped with loopDone := true } :=
    ⟨rfl, rfl, by simp [stopped, held, filled], rfl⟩
  exact ⟨_, hr, rfl, fun h' hh' => (hs.reaches hh').2.2.2⟩

end Hub

end TaskQueue.WebSocket
