import Mathlib.Logic.Relation
import Mathlib.Data.List.Basic
import Mathlib.Data.Rat.Floor
set_option autoImplicit false

/-!
# The browser client's WebSocket

`WebSocketClient` of the TypeScript client (`clients/typescript/src/websocket.ts`): the sockets it
creates, its listener maps and its reconnection. The application calls its methods; the browser
fires the `open`, `close` and `message` events of each socket and the timers `attemptReconnect`
sets; each call or handler runs to its end before the next one starts, as on the event loop. A
timer fires at some later point; its `reconnectInterval` delay is not modelled.
-/

namespace TaskQueue.TsClient

inductive ReadyState
  | connecting
  | «open»
  | closing
  | closed
  deriving DecidableEq, Repr

def ReadyState.close : ReadyState → ReadyState
  | .connecting => .closing
  | .«open» => .closing
  | st => st

/-- A JavaScript number as a comparison with a count reads it: a finite value, an infinity, or
`NaN`. -/
inductive JsNumber
  | finite (q : ℚ)
  | posInfinity
  | negInfinity
  | nan
  deriving DecidableEq, Repr

/-- `n >= x` for a count `n`; every comparison with `NaN` is false. -/
def JsNumber.leNat (x : JsNumber) (n : Nat) : Bool :=
  match x with
  | .finite q => decide (q ≤ n)
  | .posInfinity => false
  | .negInfinity => true
  | .nan => false

/-- The counts `0, 1, ...` that stay below `x`; `none` when `n >= x` never holds. -/
def JsNumber.cap : JsNumber → Option Nat
  | .finite q => some ⌈q⌉₊
  | .negInfinity => some 0
  | _ => none

/-- The options the constructor reads: a field left out is `none`, a field given as `undefined`
is `some none`. -/
structure WebSocketClientOptions where
  reconnect : Option (Option Bool)
  maxReconnectAttempts : Option (Option JsNumber)
  deriving DecidableEq, Repr

structure Options where
  reconnect : Option Bool
  maxReconnectAttempts : Option JsNumber
  deriving DecidableEq, Repr

/-- `{ reconnect: true, reconnectInterval: 5000, maxReconnectAttempts: 10, ...options }`: a field the
caller gives, even as `undefined`, replaces the default. -/
def Options.spread (o : WebSocketClientOptions) : Options :=
  ⟨o.reconnect.getD (some true), o.maxReconnectAttempts.getD (some (.finite 10))⟩

/-- `this.options.maxReconnectAttempts ?? 10`: only `undefined` falls back, `NaN` stays. -/
def Options.maxAttempts (o : Options) : JsNumber := o.maxReconnectAttempts.getD (.finite 10)

structure Event where
  type : String
  payload : Nat
  deriving DecidableEq, Repr

inductive Data
  | json (e : Event)
  | malformed
  deriving DecidableEq, Repr

/-- The client's fields, with every socket it has created (oldest first; `socket` is
`this.socket`, an index into them), the reconnects its timers hold, and two records: the
reconnects it has scheduled, and its calls of listeners, which are named by numbers. -/
structure WebSocketClient where
  options : Options
  sockets : List ReadyState
  socket : Option Nat
  listeners : List (String × List Nat)
  globalListeners : List Nat
  reconnectAttempts : Nat
  shouldReconnect : Bool
  timers : Nat
  scheduled : Nat
  calls : List (Nat × Event)
  sent : List (Nat × String × List String)
  deriving DecidableEq, Repr

namespace WebSocketClient

def new (options : WebSocketClientOptions) : WebSocketClient :=
  ⟨Options.spread options, [], none, [], [], 0, true, 0, 0, [], []⟩

/-- What `connect()` does before it returns its promise: a new socket, which becomes
`this.socket`. -/
def connect (c : WebSocketClient) : WebSocketClient :=
  { c with sockets := c.sockets ++ [.connecting], socket := some c.sockets.length }

def attemptReconnect (c : WebSocketClient) : WebSocketClient :=
  if c.options.maxAttempts.leNat c.reconnectAttempts then c
  else
    { c with
      reconnectAttempts := c.reconnectAttempts + 1
      timers := c.timers + 1
      scheduled := c.scheduled + 1 }

def onopen (c : WebSocketClient) : WebSocketClient := { c with reconnectAttempts := 0 }

def onclose (c : WebSocketClient) : WebSocketClient :=
  if c.shouldReconnect && c.options.reconnect == some true then c.attemptReconnect else c

def handleMessage (c : WebSocketClient) : Data → WebSocketClient
  | .malformed => c
  | .json e =>
    let typed := if e.type = "" then [] else (c.listeners.lookup e.type).getD []
    { c with calls := c.calls ++ (typed ++ c.globalListeners).map (fun cb => (cb, e)) }

def addCallback (cbs : List Nat) (cb : Nat) : List Nat := if cb ∈ cbs then cbs else cbs ++ [cb]

def «on» (c : WebSocketClient) (eventType : String) (cb : Nat) : WebSocketClient :=
  let ls := if (c.listeners.lookup eventType).isSome then c.listeners
    else c.listeners ++ [(eventType, [])]
  { c with listeners := ls.map (fun p => if p.1 = eventType then (p.1, addCallback p.2 cb) else p) }

def off (c : WebSocketClient) (eventType : String) (cb : Nat) : WebSocketClient :=
  { c with listeners := c.listeners.map (fun p => if p.1 = eventType then (p.1, p.2.erase cb) else p) }

def onAny (c : WebSocketClient) (cb : Nat) : WebSocketClient :=
  { c with globalListeners := addCallback c.globalListeners cb }

def offAny (c : WebSocketClient) (cb : Nat) : WebSocketClient :=
  { c with globalListeners := c.globalListeners.erase cb }

def offAll (c : WebSocketClient) : Option String → WebSocketClient
  | some eventType => { c with listeners := c.listeners.filter (·.1 ≠ eventType) }
  | none => { c with listeners := [], globalListeners := [] }

def sendAction (c : WebSocketClient) (action : String) (eventTypes : List String) :
    Except String WebSocketClient :=
  match c.socket with
  | some k =>
    if c.sockets[k]? = some .«open» then .ok { c with sent := c.sent ++ [(k, action, eventTypes)] }
    else .error "WebSocket not connected"
  | none => .error "WebSocket not connected"

def subscribe (c : WebSocketClient) (eventTypes : List String) : Except String WebSocketClient :=
  c.sendAction "subscribe" eventTypes

def unsubscribe (c : WebSocketClient) (eventTypes : List String) : Except String WebSocketClient :=
  c.sendAction "unsubscribe" eventTypes

def close (c : WebSocketClient) : WebSocketClient :=
  match c.socket with
  | some k =>
    { c with
      shouldReconnect := false
      sockets := c.sockets.modify ReadyState.close k
      socket := none }
  | none => { c with shouldReconnect := false }

def isConnected (c : WebSocketClient) : Bool := (c.socket.bind (c.sockets[·]?)) == some .«open»

end WebSocketClient

inductive Act
  | connect
  | close
  | «on» (eventType : String) (cb : Nat)
  | off (eventType : String) (cb : Nat)
  | onAny (cb : Nat)
  | offAny (cb : Nat)
  | offAll (eventType : Option String)
  | subscribe (eventTypes : List String)
  | unsubscribe (eventTypes : List String)
  | opened (k : Nat)
  | closed (k : Nat)
  | message (k : Nat) (d : Data)
  | fire
  deriving DecidableEq, Repr

def Act.inert : Act → Bool
  | .connect | .close | .opened _ | .closed _ | .fire => false
  | _ => true

def Act.isOpened : Act → Bool
  | .opened _ => true
  | _ => false

namespace WebSocketClient

/-- One call or handler; an error is what a call throws; `none` when the event cannot happen. -/
def step (c : WebSocketClient) : Act → Option (Except String WebSocketClient)
  | .connect => some (.ok c.connect)
  | .close => some (.ok c.close)
  | .on t cb => some (.ok (c.«on» t cb))
  | .off t cb => some (.ok (c.off t cb))
  | .onAny cb => some (.ok (c.onAny cb))
  | .offAny cb => some (.ok (c.offAny cb))
  | .offAll t => some (.ok (c.offAll t))
  | .subscribe ts => some (c.subscribe ts)
  | .unsubscribe ts => some (c.unsubscribe ts)
  | .opened k =>
    if c.sockets[k]? = some .connecting then
      some (.ok { c with sockets := c.sockets.set k .«open» }.onopen)
    else none
  | .closed k =>
    match c.sockets[k]? with
    | some .closed => none
    | some _ => some (.ok { c with sockets := c.sockets.set k .closed }.onclose)
    | none => none
  | .message k d => if c.sockets[k]? = some .«open» then some (.ok (c.handleMessage d)) else none
  | .fire => if 0 < c.timers then some (.ok { c with timers := c.timers - 1 }.connect) else none

def NextBy (p : Act → Prop) (c c' : WebSocketClient) : Prop := ∃ a, p a ∧ c.step a = some (.ok c')

def Reachable (o : WebSocketClientOptions) (c : WebSocketClient) : Prop :=
  Relation.ReflTransGen (NextBy fun _ => True) (new o) c

def runs : WebSocketClient → List Act → Option WebSocketClient
  | c, [] => some c
  | c, a :: as =>
    match c.step a with
    | some (.ok c') => runs c' as
    | _ => none

theorem runs_reaches {p : Act → Prop} : ∀ {c c' : WebSocketClient} (as : List Act),
    (∀ a ∈ as, p a) → c.runs as = some c' → Relation.ReflTransGen (NextBy p) c c'
  | _, _, [], _, h => by cases h; exact .refl
  | c, _, a :: as, hp, h => by
    simp only [runs] at h
    split at h
    · rename_i c₁ h₁
      exact .head ⟨a, hp a (List.mem_cons_self _ _), h₁⟩
        (runs_reaches as (fun b hb => hp b (List.mem_cons_of_mem _ hb)) h)
    · cases h

/-! ## What each step does to the connection -/

structure SameConn (c c' : WebSocketClient) : Prop where
  options : c'.options = c.options
  sockets : c'.sockets = c.sockets
  socket : c'.socket = c.socket
  attempts : c'.reconnectAttempts = c.reconnectAttempts
  timers : c'.timers = c.timers
  scheduled : c'.scheduled = c.scheduled
  shouldReconnect : c'.shouldReconnect = c.shouldReconnect

variable {c c' : WebSocketClient} {a : Act}

theorem sendAction_sameConn {action : String} {ts : List String}
    (h : c.sendAction action ts = .ok c') : SameConn c c' := by
  unfold sendAction at h
  split at h
  · split at h <;> cases h; exact ⟨rfl, rfl, rfl, rfl, rfl, rfl, rfl⟩
  · cases h

theorem step_sameConn (ha : a.inert) (h : c.step a = some (.ok c')) : SameConn c c' := by
  cases a <;> simp only [Act.inert, Bool.false_eq_true] at ha <;>
    simp only [step, Option.some.injEq] at h
  case subscribe => exact sendAction_sameConn h
  case unsubscribe => exact sendAction_sameConn h
  case offAll t => cases t <;> cases h <;> exact ⟨rfl, rfl, rfl, rfl, rfl, rfl, rfl⟩
  case message k d =>
    split at h <;> cases h
    cases d <;> exact ⟨rfl, rfl, rfl, rfl, rfl, rfl, rfl⟩
  all_goals cases h; exact ⟨rfl, rfl, rfl, rfl, rfl, rfl, rfl⟩

theorem JsNumber.lt_cap {x : JsNumber} {k n : Nat} (hk : x.cap = some k) (h : x.leNat n = false) :
    n < k := by
  cases x with
  | finite q => cases hk; simpa [JsNumber.leNat, Nat.lt_ceil] using h
  | negInfinity => cases h
  | _ => cases hk

theorem JsNumber.leNat_of_cap {x : JsNumber} (hk : x.cap = none) (n : Nat) : x.leNat n = false := by
  cases x <;> first | rfl | cases hk

theorem attemptReconnect_cases (c : WebSocketClient) :
    c.attemptReconnect = c ∨ (c.options.maxAttempts.leNat c.reconnectAttempts = false ∧
      c.attemptReconnect =
        { c with
          reconnectAttempts := c.reconnectAttempts + 1
          timers := c.timers + 1
          scheduled := c.scheduled + 1 }) := by
  unfold attemptReconnect
  split_ifs with h
  · exact .inl rfl
  · exact .inr ⟨by simpa using h, rfl⟩

theorem onclose_cases (c : WebSocketClient) :
    c.onclose = c ∨ (c.options.maxAttempts.leNat c.reconnectAttempts = false ∧
      c.onclose =
        { c with
          reconnectAttempts := c.reconnectAttempts + 1
          timers := c.timers + 1
          scheduled := c.scheduled + 1 }) := by
  unfold onclose
  split_ifs
  · exact attemptReconnect_cases c
  · exact .inl rfl

theorem step_conn_cases (ha : a.inert = false) (h : c.step a = some (.ok c')) :
    (a = .connect ∧ c' = c.connect) ∨ (a = .close ∧ c' = c.close) ∨
    (∃ k, a = .opened k ∧ c.sockets[k]? = some .connecting ∧
      c' = { c with sockets := c.sockets.set k .«open», reconnectAttempts := 0 }) ∨
    (∃ k st, a = .closed k ∧ c.sockets[k]? = some st ∧ st ≠ .closed ∧
      c' = { c with sockets := c.sockets.set k .closed }.onclose) ∨
    (a = .fire ∧ 0 < c.timers ∧ c' = { c with timers := c.timers - 1 }.connect) := by
  cases a <;> simp only [Act.inert, Bool.true_eq_false] at ha <;> simp only [step] at h
  case connect => cases h; exact .inl ⟨rfl, rfl⟩
  case close => cases h; exact .inr (.inl ⟨rfl, rfl⟩)
  case opened k =>
    split at h <;> cases h
    exact .inr (.inr (.inl ⟨k, rfl, ‹_›, rfl⟩))
  case closed k =>
    split at h <;> cases h
    rename_i st hne hk
    exact .inr (.inr (.inr (.inl ⟨k, st, rfl, hk, hne, rfl⟩)))
  case fire =>
    split at h <;> cases h
    exact .inr (.inr (.inr (.inr ⟨rfl, ‹_›, rfl⟩)))

@[simp] theorem connect_sockets : c.connect.sockets = c.sockets ++ [.connecting] := rfl

@[simp] theorem connect_timers : c.connect.timers = c.timers := rfl

@[simp] theorem close_timers : c.close.timers = c.timers := by unfold close; split <;> rfl

@[simp] theorem close_options : c.close.options = c.options := by unfold close; split <;> rfl

@[simp] theorem close_attempts : c.close.reconnectAttempts = c.reconnectAttempts := by
  unfold close; split <;> rfl

@[simp] theorem close_scheduled : c.close.scheduled = c.scheduled := by unfold close; split <;> rfl

@[simp] theorem close_shouldReconnect : c.close.shouldReconnect = false := by
  unfold close; split <;> rfl

@[simp] theorem close_socket : c.close.socket = none := by unfold close; split <;> simp_all

theorem close_sockets : c.close.sockets = (c.socket.map fun k => c.sockets.modify ReadyState.close k).getD c.sockets := by
  unfold close; split <;> simp_all

/-! ## Reconnects between two opens -/

theorem step_options (h : c.step a = some (.ok c')) : c'.options = c.options := by
  cases hi : a.inert
  · rcases step_conn_cases hi h with ⟨-, rfl⟩ | ⟨-, rfl⟩ | ⟨k, -, -, rfl⟩ | ⟨k, st, -, -, -, rfl⟩ |
      ⟨-, -, rfl⟩
    · rfl
    · simp
    · rfl
    · rcases onclose_cases { c with sockets := c.sockets.set k .closed } with h | ⟨-, h⟩ <;> rw [h]
    · rfl
  · exact (step_sameConn hi h).options

def budget (k : Nat) (c : WebSocketClient) : Nat := c.scheduled + (k - c.reconnectAttempts)

theorem onclose_budget {k : Nat} (hk : c.options.maxAttempts.cap = some k) :
    c.onclose.budget k = c.budget k := by
  rcases onclose_cases c with h | ⟨hlt, h⟩ <;> rw [h]
  have := JsNumber.lt_cap hk hlt
  simp only [budget]
  omega

theorem step_budget {k : Nat} (hk : c.options.maxAttempts.cap = some k) (ha : a.isOpened = false)
    (h : c.step a = some (.ok c')) : c'.budget k = c.budget k := by
  cases hi : a.inert
  · rcases step_conn_cases hi h with ⟨-, rfl⟩ | ⟨-, rfl⟩ | ⟨j, rfl, -⟩ | ⟨j, st, -, -, -, rfl⟩ |
      ⟨-, -, rfl⟩
    · rfl
    · simp [budget]
    · cases ha
    · exact onclose_budget (c := { c with sockets := c.sockets.set j .closed }) hk
    · rfl
  · have hs := step_sameConn hi h
    simp only [budget, hs.scheduled, hs.attempts]

/-- Between two sockets opening, the client schedules at most as many reconnects as the cap of
`maxReconnectAttempts` allows: along every run in which no socket opens, whatever the
application calls and whichever sockets close, at most those `reconnectAttempts` left room for. -/
theorem reconnects_bounded {k : Nat} (hk : c.options.maxAttempts.cap = some k)
    (h : Relation.ReflTransGen (NextBy fun a => a.isOpened = false) c c') :
    c'.scheduled ≤ c.scheduled + (k - c.reconnectAttempts) := by
  have hb : c'.options = c.options ∧ c'.budget k = c.budget k := by
    induction h with
    | refl => exact ⟨rfl, rfl⟩
    | tail _ hn ih =>
      obtain ⟨a, ha, hs⟩ := hn
      exact ⟨(step_options hs).trans ih.1, (step_budget (ih.1 ▸ hk) ha hs).trans ih.2⟩
  exact le_of_le_of_eq (Nat.le_add_right _ _) hb.2

theorem failedReconnect_round (hk : c.options.maxAttempts.cap = none)
    (hre : c.options.reconnect = some true) (hs : c.shouldReconnect = true) {j : Nat}
    (hj : c.sockets[j]? = some .connecting) :
    ∃ c₁, c.runs [.closed j, .fire] = some c₁ ∧ c₁.options = c.options ∧ c₁.shouldReconnect = true ∧
      c₁.sockets[c.sockets.length]? = some .connecting ∧ c₁.scheduled = c.scheduled + 1 := by
  simp [runs, step, hj, onclose, hre, hs, attemptReconnect, JsNumber.leNat_of_cap hk, connect]

/-- Without a finite cap reconnects never stop: when `maxReconnectAttempts` is `NaN` or
`Infinity`, from every state with a socket still connecting the sockets can fail one after the
other, no socket opening, each failure scheduling one more reconnect, as many as one likes. -/
theorem reconnects_unbounded (hk : c.options.maxAttempts.cap = none)
    (hre : c.options.reconnect = some true) (hs : c.shouldReconnect = true) {j : Nat}
    (hj : c.sockets[j]? = some .connecting) :
    ∀ n, ∃ c', Relation.ReflTransGen (NextBy fun a => a.isOpened = false) c c' ∧
      c'.scheduled = c.scheduled + n := by
  intro n
  induction n generalizing c j with
  | zero => exact ⟨c, .refl, rfl⟩
  | succ n ih =>
    obtain ⟨c₁, hrun, ho, hs₁, hj₁, hsc⟩ := failedReconnect_round hk hre hs hj
    obtain ⟨c', hr, hsc'⟩ := ih (ho ▸ hk) (ho ▸ hre) hs₁ hj₁
    exact ⟨c', (runs_reaches _ (by simp [Act.isOpened]) hrun).trans hr, by omega⟩

/-! ## At most one connection without a second `connect()` -/

def load (c : WebSocketClient) : Nat := c.sockets.countP (· != .closed) + c.timers

theorem countP_modify_close : ∀ (k : Nat) (l : List ReadyState),
    (l.modify ReadyState.close k).countP (· != .closed) = l.countP (· != .closed)
  | _, [] => by simp
  | 0, st :: l => by cases st <;> simp [ReadyState.close]
  | k + 1, st :: l => by
    simp only [List.modify_succ_cons, List.countP_cons, countP_modify_close k l]

@[simp] theorem close_load : c.close.load = c.load := by
  unfold close load; split <;> simp [countP_modify_close]

theorem onclose_conn (c : WebSocketClient) :
    c.onclose.sockets = c.sockets ∧ c.onclose.socket = c.socket ∧ c.onclose.timers ≤ c.timers + 1 := by
  rcases onclose_cases c with h | ⟨-, h⟩ <;> rw [h] <;> simp

theorem step_load (ha : a ≠ .connect) (h : c.step a = some (.ok c')) : c'.load ≤ c.load := by
  cases hi : a.inert
  · rcases step_conn_cases hi h with ⟨rfl, -⟩ | ⟨-, rfl⟩ | ⟨k, -, hk, rfl⟩ |
      ⟨k, st, -, hk, hst, rfl⟩ | ⟨-, ht, rfl⟩
    · exact absurd rfl ha
    · exact (close_load).le
    · obtain ⟨hlt, hget⟩ := List.getElem?_eq_some_iff.1 hk
      have hpos : 0 < c.sockets.countP (· != .closed) :=
        List.countP_pos_iff.2 ⟨_, List.mem_iff_getElem?.2 ⟨k, hk⟩, rfl⟩
      simp [load, List.countP_set _ _ _ _ hlt, hget]
      omega
    · obtain ⟨hlt, hget⟩ := List.getElem?_eq_some_iff.1 hk
      obtain ⟨hs, -, ht⟩ := onclose_conn { c with sockets := c.sockets.set k .closed }
      have hpos : 0 < c.sockets.countP (· != .closed) :=
        List.countP_pos_iff.2 ⟨st, List.mem_iff_getElem?.2 ⟨k, hk⟩, by simpa using hst⟩
      have ht' : _ ≤ c.timers + 1 := ht
      simp [load, hs, List.countP_set _ _ _ _ hlt, hget, hst]
      omega
    · simp only [load, connect_sockets, connect_timers, List.countP_append]
      simp
      omega
  · have hs := step_sameConn hi h
    simp only [load, hs.sockets, hs.timers, le_refl]

/-- Along every run without a call of `connect()`, the sockets not yet closed and the pending
reconnects never grow in number. -/
theorem load_never_grows_without_connect
    (h : Relation.ReflTransGen (NextBy (· ≠ .connect)) c c') : c'.load ≤ c.load := by
  induction h with
  | refl => exact le_rfl
  | tail _ hn ih =>
    obtain ⟨a, ha, hs⟩ := hn
    exact (step_load ha hs).trans ih

/-! ## What `close()` leaves behind -/

@[simp] theorem close_sockets_length : c.close.sockets.length = c.sockets.length := by
  unfold close; split <;> simp

theorem step_closed_client (hs : c.shouldReconnect = false) (ha : a ≠ .connect)
    (h : c.step a = some (.ok c')) :
    c'.shouldReconnect = false ∧ c'.scheduled = c.scheduled ∧
      c'.sockets.length + c'.timers = c.sockets.length + c.timers := by
  cases hi : a.inert
  · rcases step_conn_cases hi h with ⟨rfl, -⟩ | ⟨-, rfl⟩ | ⟨k, -, -, rfl⟩ | ⟨k, st, -, -, -, rfl⟩ |
      ⟨-, ht, rfl⟩
    · exact absurd rfl ha
    · simp
    · simp [hs]
    · simp [onclose, hs]
    · simp [connect, hs]; omega
  · have hc := step_sameConn hi h
    exact ⟨hc.shouldReconnect ▸ hs, hc.scheduled, by rw [hc.sockets, hc.timers]⟩

/-- `close()` does not cancel a pending reconnect: after it, without `connect()`, nothing is
scheduled, yet each reconnect pending at `close()` can still fire and make a new `this.socket`. -/
theorem close_keeps_pending_reconnect
    (h : Relation.ReflTransGen (NextBy (· ≠ .connect)) c.close c') :
    c'.shouldReconnect = false ∧ c'.scheduled = c.scheduled ∧
      c'.sockets.length + c'.timers = c.sockets.length + c.timers ∧
      (0 < c'.timers → ∃ c'', c'.step .fire = some (.ok c'') ∧ c''.socket = some c'.sockets.length) := by
  have hrun : c'.shouldReconnect = false ∧ c'.scheduled = c.scheduled ∧
      c'.sockets.length + c'.timers = c.sockets.length + c.timers := by
    induction h with
    | refl => simp
    | tail _ hn ih =>
      obtain ⟨a, ha, hs⟩ := hn
      obtain ⟨h₁, h₂, h₃⟩ := step_closed_client ih.1 ha hs
      exact ⟨h₁, h₂.trans ih.2.1, h₃.trans ih.2.2⟩
  exact ⟨hrun.1, hrun.2.1, hrun.2.2,
    fun ht => ⟨{ c' with timers := c'.timers - 1 }.connect, by simp [step, ht], rfl⟩⟩

theorem step_orphan {k : Nat} (ha : a ≠ .closed k) (hk : c.socket ≠ some k)
    (hopen : c.sockets[k]? = some .«open») (h : c.step a = some (.ok c')) :
    c'.socket ≠ some k ∧ c'.sockets[k]? = some .«open» := by
  have hlt := (List.getElem?_eq_some_iff.1 hopen).1
  have hconnect : ∀ c₀ : WebSocketClient, c₀.sockets = c.sockets →
      c₀.connect.socket ≠ some k ∧ c₀.connect.sockets[k]? = some .«open» := fun c₀ h₀ => by
    simp only [connect, h₀, List.getElem?_append_left hlt, hopen, ne_eq, Option.some.injEq, and_true]
    omega
  cases hi : a.inert
  · rcases step_conn_cases hi h with ⟨-, rfl⟩ | ⟨-, rfl⟩ | ⟨j, -, hj, rfl⟩ |
      ⟨j, st, rfl, -, -, rfl⟩ | ⟨-, -, rfl⟩
    · exact hconnect c rfl
    · refine ⟨by simp, ?_⟩
      rw [close_sockets]
      cases hs : c.socket with
      | none => exact hopen
      | some j =>
        have hjk : j ≠ k := fun e => hk (e ▸ hs)
        simpa [List.getElem?_modify_ne _ _ hjk] using hopen
    · have hjk : j ≠ k := by rintro rfl; simp [hopen] at hj
      exact ⟨hk, by simp [List.getElem?_set_ne hjk, hopen]⟩
    · have hjk : j ≠ k := fun e => ha (e ▸ rfl)
      obtain ⟨hs, hs', -⟩ := onclose_conn { c with sockets := c.sockets.set j .closed }
      exact ⟨by rw [hs']; exact hk, by simp [hs, List.getElem?_set_ne hjk, hopen]⟩
    · exact hconnect _ rfl
  · have hs := step_sameConn hi h
    exact ⟨hs.socket ▸ hk, hs.sockets ▸ hopen⟩

/-- The client only ever closes `this.socket`: an open socket that is no longer `this.socket`
stays open through everything but its own close event. -/
theorem orphan_stays_open {k : Nat} (hk : c.socket ≠ some k) (hopen : c.sockets[k]? = some .«open»)
    (h : Relation.ReflTransGen (NextBy (· ≠ .closed k)) c c') :
    c'.socket ≠ some k ∧ c'.sockets[k]? = some .«open» := by
  induction h with
  | refl => exact ⟨hk, hopen⟩
  | tail _ hn ih =>
    obtain ⟨a, ha, hs⟩ := hn
    exact step_orphan ha ih.1 ih.2 hs

/-! ## Runs of a client with the default options -/

def droppedActs : List Act := [.connect, .opened 0, .closed 0]

def dropped : WebSocketClient := ((new ⟨none, none⟩).runs droppedActs).getD (new ⟨none, none⟩)

def failingActs : List Act := [.fire, .closed 1, .fire, .closed 2]

def failing : WebSocketClient := (dropped.runs failingActs).getD dropped

theorem reconnects_bounded_two_failures :
    dropped.options.maxAttempts.cap = some 10 ∧
      failing.scheduled ≤ dropped.scheduled + (10 - dropped.reconnectAttempts) :=
  ⟨by decide, reconnects_bounded (by decide) (runs_reaches failingActs (by decide) rfl)⟩

def nanClient : WebSocketClient := (new ⟨none, some (some .nan)⟩).connect

theorem reconnects_unbounded_nan :
    nanClient.options.maxAttempts.cap = none ∧ ∃ c', Relation.ReflTransGen
      (NextBy fun a => a.isOpened = false) nanClient c' ∧ c'.scheduled = nanClient.scheduled + 12 :=
  ⟨rfl, reconnects_unbounded (c := nanClient) rfl rfl rfl (j := 0) rfl 12⟩

theorem load_never_grows_without_connect_dropped : failing.load ≤ dropped.load :=
  load_never_grows_without_connect (runs_reaches failingActs (by decide) rfl)

def reopened : WebSocketClient := (dropped.close.runs [.fire, .opened 1]).getD dropped

theorem close_keeps_pending_reconnect_dropped :
    reopened.shouldReconnect = false ∧ reopened.scheduled = dropped.scheduled ∧
      reopened.sockets.length + reopened.timers = dropped.sockets.length + dropped.timers ∧
      (0 < reopened.timers →
        ∃ c'', reopened.step .fire = some (.ok c'') ∧ c''.socket = some reopened.sockets.length) :=
  close_keeps_pending_reconnect (runs_reaches [.fire, .opened 1] (by decide) rfl)

example : reopened.isConnected = true := by decide

def doubledActs : List Act := [.connect, .fire, .opened 1, .opened 2, .onAny 7]

def doubled : WebSocketClient := (dropped.runs doubledActs).getD dropped

def afterCloseActs : List Act :=
  [.message 1 (.json ⟨"task.completed", 1⟩), .message 2 (.json ⟨"task.completed", 1⟩), .close,
    .message 1 (.json ⟨"task.completed", 2⟩)]

def afterClose : WebSocketClient := (doubled.runs afterCloseActs).getD doubled

theorem orphan_stays_open_after_close :
    afterClose.socket ≠ some 1 ∧ afterClose.sockets[1]? = some .«open» := by
  have h : Relation.ReflTransGen (NextBy (· ≠ .closed 1)) doubled afterClose :=
    runs_reaches afterCloseActs (by decide) rfl
  exact orphan_stays_open (by decide) (by decide) h

/- A manual reconnect doubles the connection: the application calls `connect()` while the client
is not connected and a reconnect is pending, so two sockets open. A global listener then gets each
event twice, and after `close()` the orphaned socket still delivers events to it while the client
says it is not connected. -/
example :
    dropped.isConnected = false ∧ (dropped.runs doubledActs).isSome ∧
      (doubled.runs afterCloseActs).isSome ∧ afterClose.shouldReconnect = false ∧
      afterClose.isConnected = false ∧
      afterClose.calls = [(7, ⟨"task.completed", 1⟩), (7, ⟨"task.completed", 1⟩),
        (7, ⟨"task.completed", 2⟩)] := by
  decide

end WebSocketClient

end TaskQueue.TsClient
