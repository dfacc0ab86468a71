import Mathlib.Logic.Relation
import Mathlib.Data.List.Basic
set_option autoImplicit false

/-!
# The Go client's event stream

`WebSocketClient` of the Go client (`pkg/client/websocket.go`) once `Connect` has dialled: the
`readLoop` goroutine, which reads the connection into the buffered channel `events` and drops the
oldest event when the channel is full; the goroutines that read `Events()`; `Close`; and the
server, which writes frames and may close the connection. Each step is one channel operation or
one read of the connection.
-/

namespace TaskQueue.GoClient

def eventsCapacity : Nat := 100

structure Event where
  type : String
  payload : Nat
  deriving DecidableEq, Repr

inductive Frame
  | event (e : Event)
  | malformed
  deriving DecidableEq, Repr

/-- Where `readLoop` is: at the `select` on `ws.done`, in `ReadMessage`, at the `select` that
sends `e`, at the `select` that drops the oldest event, at the send after it, running its
deferred function, or returned. -/
inductive LoopPc
  | top
  | reading
  | send (e : Event)
  | drop (e : Event)
  | push (e : Event)
  | exit
  | done
  deriving DecidableEq, Repr

/-- The connection, the client's fields, where `readLoop` is, and as history the frames the
server sent, the events parsed, what left `events` and the event held when the loop returned. -/
structure WebSocketClient where
  incoming : List Frame
  eof : Bool
  connClosed : Bool
  connected : Bool
  doneClosed : Bool
  events : List Event
  eventsClosed : Bool
  loop : LoopPc
  sent : List Frame
  parsed : List Event
  taken : List (Bool × Event)
  lost : List Event
  deriving DecidableEq, Repr

inductive Act
  | serverSend (f : Frame)
  | serverClose
  | quit
  | enter
  | readMessage
  | deliver
  | abandon
  | overflow
  | dropOldest
  | push
  | finish
  | receive
  | close
  deriving DecidableEq, Repr

def Act.isLoop : Act → Bool
  | .quit | .enter | .readMessage | .deliver | .abandon | .overflow | .dropOldest | .push
  | .finish => true
  | _ => false

inductive Panic
  | sendOnClosedChannel
  | closeOfClosedChannel
  deriving DecidableEq, Repr

namespace WebSocketClient

def init : WebSocketClient := ⟨[], false, false, true, false, [], false, .top, [], [], [], []⟩

def sendEvent (c : WebSocketClient) (e : Event) : Option (Except Panic WebSocketClient) :=
  if c.eventsClosed then some (.error .sendOnClosedChannel)
  else if c.events.length < eventsCapacity then
    some (.ok { c with events := c.events ++ [e], loop := .top })
  else none

/-- One step; `none` when it cannot be taken. -/
def step (c : WebSocketClient) : Act → Option (Except Panic WebSocketClient)
  | .serverSend f =>
    if c.eof then none else some (.ok { c with incoming := c.incoming ++ [f], sent := c.sent ++ [f] })
  | .serverClose => if c.eof then none else some (.ok { c with eof := true })
  | .quit => if c.loop = .top ∧ c.doneClosed then some (.ok { c with loop := .exit }) else none
  | .enter => if c.loop = .top ∧ !c.doneClosed then some (.ok { c with loop := .reading }) else none
  | .readMessage =>
    if c.loop = .reading then
      if c.connClosed then some (.ok { c with loop := .exit })
      else
        match c.incoming with
        | .event e :: rest =>
          some (.ok { c with incoming := rest, loop := .send e, parsed := c.parsed ++ [e] })
        | .malformed :: rest => some (.ok { c with incoming := rest, loop := .top })
        | [] => if c.eof then some (.ok { c with loop := .exit }) else none
    else none
  | .deliver =>
    match c.loop with
    | .send e => c.sendEvent e
    | _ => none
  | .abandon =>
    match c.loop with
    | .send e => if c.doneClosed then some (.ok { c with loop := .exit, lost := c.lost ++ [e] }) else none
    | _ => none
  | .overflow =>
    match c.loop with
    | .send e =>
      if c.events.length < eventsCapacity ∨ c.doneClosed then none
      else some (.ok { c with loop := .drop e })
    | _ => none
  | .dropOldest =>
    match c.loop, c.events with
    | .drop e, h :: t =>
      some (.ok { c with events := t, taken := c.taken ++ [(false, h)], loop := .push e })
    | .drop e, [] => some (.ok { c with loop := .push e })
    | _, _ => none
  | .push =>
    match c.loop with
    | .push e => c.sendEvent e
    | _ => none
  | .finish =>
    if c.loop = .exit then
      if c.eventsClosed then some (.error .closeOfClosedChannel)
      else some (.ok { c with connected := false, eventsClosed := true, loop := .done })
    else none
  | .receive =>
    match c.events with
    | h :: t => some (.ok { c with events := t, taken := c.taken ++ [(true, h)] })
    | [] => none
  | .close =>
    if c.doneClosed then some (.ok c) else some (.ok { c with doneClosed := true, connClosed := true })

def Next (c c' : WebSocketClient) : Prop := ∃ a, c.step a = some (.ok c')

def Reachable (c : WebSocketClient) : Prop := Relation.ReflTransGen Next init c

def runs : WebSocketClient → List Act → Option WebSocketClient
  | c, [] => some c
  | c, a :: as =>
    match c.step a with
    | some (.ok c') => runs c' as
    | _ => none

theorem runs_reaches : ∀ {c c' : WebSocketClient} (as : List Act), c.runs as = some c' →
    Relation.ReflTransGen Next c c'
  | _, _, [], h => by cases h; exact .refl
  | c, _, a :: as, h => by
    simp only [runs] at h
    split at h
    · rename_i c₁ h₁
      exact .head ⟨a, h₁⟩ (runs_reaches as h)
    · cases h

theorem runs_append : ∀ (c : WebSocketClient) (as bs : List Act),
    c.runs (as ++ bs) = (c.runs as).bind fun c' => c'.runs bs
  | c, [], bs => rfl
  | c, a :: as, bs => by
    simp only [List.cons_append, runs]
    split <;> simp [runs_append]

def received (c : WebSocketClient) : List Event :=
  c.taken.filterMap fun p => if p.1 then some p.2 else none

def dropped (c : WebSocketClient) : List Event :=
  c.taken.filterMap fun p => if p.1 = false then some p.2 else none

def pending : LoopPc → List Event
  | .send e | .drop e | .push e => [e]
  | _ => []

def eventsOf (fs : List Frame) : List Event :=
  fs.filterMap fun f =>
    match f with
    | .event e => some e
    | .malformed => none

@[simp] theorem eventsOf_nil : eventsOf [] = [] := rfl

@[simp] theorem eventsOf_append (fs gs : List Frame) :
    eventsOf (fs ++ gs) = eventsOf fs ++ eventsOf gs := List.filterMap_append _ _ _

@[simp] theorem eventsOf_event (e : Event) (fs : List Frame) :
    eventsOf (.event e :: fs) = e :: eventsOf fs := rfl

@[simp] theorem eventsOf_malformed (fs : List Frame) : eventsOf (.malformed :: fs) = eventsOf fs := rfl

/-! ## What a step does -/

variable {c c' : WebSocketClient} {a : Act}

theorem sendEvent_ok {e : Event} (h : c.sendEvent e = some (.ok c')) :
    c.eventsClosed = false ∧ c.events.length < eventsCapacity ∧
      c' = { c with events := c.events ++ [e], loop := .top } := by
  unfold sendEvent at h
  split_ifs at h with h₁ h₂ <;> cases h
  exact ⟨by simpa using h₁, h₂, rfl⟩

theorem step_cases (h : c.step a = some (.ok c')) :
    (∃ f, a = .serverSend f ∧ c' = { c with incoming := c.incoming ++ [f], sent := c.sent ++ [f] }) ∨
    (a = .serverClose ∧ c' = { c with eof := true }) ∨
    (a = .quit ∧ c.loop = .top ∧ c.doneClosed = true ∧ c' = { c with loop := .exit }) ∨
    (a = .enter ∧ c.loop = .top ∧ c.doneClosed = false ∧ c' = { c with loop := .reading }) ∨
    (a = .readMessage ∧ c.loop = .reading ∧ c' = { c with loop := .exit }) ∨
    (∃ e rest, a = .readMessage ∧ c.loop = .reading ∧ c.connClosed = false ∧
      c.incoming = .event e :: rest ∧
      c' = { c with incoming := rest, loop := .send e, parsed := c.parsed ++ [e] }) ∨
    (∃ rest, a = .readMessage ∧ c.loop = .reading ∧ c.connClosed = false ∧
      c.incoming = .malformed :: rest ∧
      c' = { c with incoming := rest, loop := .top }) ∨
    (∃ e, (a = .deliver ∧ c.loop = .send e ∨ a = .push ∧ c.loop = .push e) ∧
      c.eventsClosed = false ∧ c.events.length < eventsCapacity ∧
      c' = { c with events := c.events ++ [e], loop := .top }) ∨
    (∃ e, a = .abandon ∧ c.loop = .send e ∧ c.doneClosed = true ∧
      c' = { c with loop := .exit, lost := c.lost ++ [e] }) ∨
    (∃ e, a = .overflow ∧ c.loop = .send e ∧ eventsCapacity ≤ c.events.length ∧
      c.doneClosed = false ∧ c' = { c with loop := .drop e }) ∨
    (∃ e x t, a = .dropOldest ∧ c.loop = .drop e ∧ c.events = x :: t ∧
      c' = { c with events := t, taken := c.taken ++ [(false, x)], loop := .push e }) ∨
    (∃ e, a = .dropOldest ∧ c.loop = .drop e ∧ c.events = [] ∧ c' = { c with loop := .push e }) ∨
    (a = .finish ∧ c.loop = .exit ∧ c.eventsClosed = false ∧
      c' = { c with connected := false, eventsClosed := true, loop := .done }) ∨
    (∃ x t, a = .receive ∧ c.events = x :: t ∧
      c' = { c with events := t, taken := c.taken ++ [(true, x)] }) ∨
    (a = .close ∧ (c' = c ∨ c' = { c with doneClosed := true, connClosed := true })) := by
  cases a <;> simp only [step] at h
  case serverSend f => split at h <;> cases h; exact .inl ⟨f, rfl, rfl⟩
  case serverClose => split at h <;> cases h; exact .inr <| .inl ⟨rfl, rfl⟩
  case quit =>
    split at h <;> cases h
    exact .inr <| .inr <| .inl ⟨rfl, ‹_ ∧ _›.1, ‹_ ∧ _›.2, rfl⟩
  case enter =>
    split at h <;> cases h
    rename_i hc
    exact .inr <| .inr <| .inr <| .inl ⟨rfl, hc.1, by simpa using hc.2, rfl⟩
  case readMessage =>
    split at h
    · rename_i hl
      split at h
      · cases h; exact .inr <| .inr <| .inr <| .inr <| .inl ⟨rfl, hl, rfl⟩
      · rename_i hcc
        have hcc : c.connClosed = false := by simpa using hcc
        split at h
        · cases h
          exact .inr <| .inr <| .inr <| .inr <| .inr <| .inl ⟨_, _, rfl, hl, hcc, ‹_›, rfl⟩
        · cases h
          exact .inr <| .inr <| .inr <| .inr <| .inr <| .inr <| .inl ⟨_, rfl, hl, hcc, ‹_›, rfl⟩
        · split at h <;> cases h
          exact .inr <| .inr <| .inr <| .inr <| .inl ⟨rfl, hl, rfl⟩
    · cases h
  case deliver =>
    split at h
    · obtain ⟨h₁, h₂, rfl⟩ := sendEvent_ok h
      exact .inr <| .inr <| .inr <| .inr <| .inr <| .inr <| .inr <| .inl
        ⟨_, .inl ⟨rfl, ‹_›⟩, h₁, h₂, rfl⟩
    · cases h
  case push =>
    split at h
    · obtain ⟨h₁, h₂, rfl⟩ := sendEvent_ok h
      exact .inr <| .inr <| .inr <| .inr <| .inr <| .inr <| .inr <| .inl
        ⟨_, .inr ⟨rfl, ‹_›⟩, h₁, h₂, rfl⟩
    · cases h
  case abandon =>
    split at h
    · split at h <;> cases h
      exact .inr <| .inr <| .inr <| .inr <| .inr <| .inr <| .inr <| .inr <| .inl
        ⟨_, rfl, ‹_›, ‹_›, rfl⟩
    · cases h
  case overflow =>
    split at h
    · split at h <;> cases h
      rename_i hl hc
      simp only [not_or, not_lt, Bool.not_eq_true] at hc
      exact .inr <| .inr <| .inr <| .inr <| .inr <| .inr <| .inr <| .inr <| .inr <| .inl
        ⟨_, rfl, hl, hc.1, hc.2, rfl⟩
    · cases h
  case dropOldest =>
    split at h <;> cases h
    · exact .inr <| .inr <| .inr <| .inr <| .inr <| .inr <| .inr <| .inr <| .inr <| .inr <| .inl
        ⟨_, _, _, rfl, ‹_›, ‹_›, rfl⟩
    · exact .inr <| .inr <| .inr <| .inr <| .inr <| .inr <| .inr <| .inr <| .inr <| .inr <| .inr <|
        .inl ⟨_, rfl, ‹_›, ‹_›, rfl⟩
  case finish =>
    split at h
    · split at h <;> cases h
      rename_i hl hc
      exact .inr <| .inr <| .inr <| .inr <| .inr <| .inr <| .inr <| .inr <| .inr <| .inr <| .inr <|
        .inr <| .inl ⟨rfl, hl, by simpa using hc, rfl⟩
    · cases h
  case receive =>
    split at h <;> cases h
    exact .inr <| .inr <| .inr <| .inr <| .inr <| .inr <| .inr <| .inr <| .inr <| .inr <| .inr <|
      .inr <| .inr <| .inl ⟨_, _, rfl, ‹_›, rfl⟩
  case close =>
    split at h <;> cases h
    · exact .inr <| .inr <| .inr <| .inr <| .inr <| .inr <| .inr <| .inr <| .inr <| .inr <| .inr <|
        .inr <| .inr <| .inr ⟨rfl, .inl rfl⟩
    · exact .inr <| .inr <| .inr <| .inr <| .inr <| .inr <| .inr <| .inr <| .inr <| .inr <| .inr <|
        .inr <| .inr <| .inr ⟨rfl, .inr rfl⟩

/-! ## The invariant -/

/-- Every event the server sent is unread, in the channel, held, lost or gone from the channel,
in order; the channel stays within capacity and is closed exactly when the loop has returned. -/
structure Inv (c : WebSocketClient) : Prop where
  frames : eventsOf c.sent = c.parsed ++ eventsOf c.incoming
  conserve : c.taken.map Prod.snd ++ c.events ++ pending c.loop ++ c.lost = c.parsed
  lostDone : c.lost = [] ∨ c.loop = .exit ∨ c.loop = .done
  bound : c.events.length ≤ eventsCapacity
  room : ∀ e, c.loop = .push e → c.events.length < eventsCapacity
  eventsClosed : c.eventsClosed = true ↔ c.loop = .done
  doneClosed : c.doneClosed = true → c.connClosed = true

theorem inv_init : Inv init :=
  ⟨rfl, rfl, .inl rfl, (by decide), (fun _ h => by cases h), (by decide), (fun h => by cases h)⟩

theorem Inv.step (hi : Inv c) (h : c.step a = some (.ok c')) : Inv c' := by
  obtain ⟨hf, hc, hlost, hb, hr, he, hd⟩ := hi
  rcases step_cases h with ⟨f, -, rfl⟩ | ⟨-, rfl⟩ | ⟨-, hl, -, rfl⟩ | ⟨-, hl, -, rfl⟩ |
    ⟨-, hl, rfl⟩ | ⟨e, rest, -, hl, -, hin, rfl⟩ | ⟨rest, -, hl, -, hin, rfl⟩ |
    ⟨e, hl, -, hlt, rfl⟩ | ⟨e, -, hl, hdc, rfl⟩ | ⟨e, -, hl, hge, -, rfl⟩ |
    ⟨e, x, t, -, hl, hev, rfl⟩ | ⟨e, -, hl, hev, rfl⟩ | ⟨-, hl, -, rfl⟩ | ⟨x, t, -, hev, rfl⟩ |
    ⟨-, rfl | rfl⟩
  · exact ⟨by simp [hf], hc, hlost, hb, hr, he, hd⟩
  · exact ⟨hf, hc, hlost, hb, hr, he, hd⟩
  · exact ⟨hf, by simpa [hl, pending] using hc, .inr (.inl rfl), hb, (fun _ h => by cases h),
      by simpa [hl] using he, hd⟩
  · exact ⟨hf, by simpa [hl, pending] using hc, by simpa [hl] using hlost, hb,
      (fun _ h => by cases h), by simpa [hl] using he, hd⟩
  · exact ⟨hf, by simpa [hl, pending] using hc, .inr (.inl rfl), hb, (fun _ h => by cases h),
      by simpa [hl] using he, hd⟩
  · have hl' : c.lost = [] := by simpa [hl] using hlost
    exact ⟨by simp [hf, hin], by simp [← hc, hl, hl', pending], .inl hl', hb,
      (fun _ h => by cases h), by simpa [hl] using he, hd⟩
  · exact ⟨by simp [hf, hin], by simpa [hl, pending] using hc, by simpa [hl] using hlost, hb,
      (fun _ h => by cases h), by simpa [hl] using he, hd⟩
  · have hp : pending c.loop = [e] ∧ c.loop ≠ .exit ∧ c.loop ≠ .done := by
      rcases hl with ⟨-, h⟩ | ⟨-, h⟩ <;> simp [h, pending]
    have hl' : c.lost = [] := by simpa [hp.2] using hlost
    exact ⟨hf, by rw [← hc, hp.1, hl']; simp [pending], .inl hl', by simpa using hlt,
      (fun _ h => by cases h), by simpa [hp.2.2] using he, hd⟩
  · have hl' : c.lost = [] := by simpa [hl] using hlost
    exact ⟨hf, by simp [← hc, hl, hl', pending], .inr (.inl rfl), hb, (fun _ h => by cases h),
      by simpa [hl] using he, hd⟩
  · exact ⟨hf, by simpa [hl, pending] using hc, by simpa [hl] using hlost, hb,
      (fun _ h => by cases h), by simpa [hl] using he, hd⟩
  · have hlen : t.length < eventsCapacity := by simpa [hev] using hb
    exact ⟨hf, by simpa [hl, hev, pending] using hc, by simpa [hl] using hlost, hlen.le,
      (fun _ _ => hlen), by simpa [hl] using he, hd⟩
  · exact ⟨hf, by simpa [hl, hev, pending] using hc, by simpa [hl] using hlost, (by simp [hev]),
      (fun _ _ => by simp [hev]; decide), by simpa [hl] using he, hd⟩
  · exact ⟨hf, by simpa [hl, pending] using hc, .inr (.inr rfl), hb, (fun _ h => by cases h),
      by simp, hd⟩
  · have hlen : t.length + 1 ≤ eventsCapacity := by simpa [hev] using hb
    exact ⟨hf, by simpa [hev] using hc, hlost, by simp only; omega,
      (fun e' h => by have := hr e' h; simp only [hev, List.length_cons] at this; simp only; omega),
      he, hd⟩
  · exact ⟨hf, hc, hlost, hb, hr, he, hd⟩
  · exact ⟨hf, hc, hlost, hb, hr, he, fun _ => rfl⟩

theorem Reachable.inv (hr : Reachable c) : Inv c := by
  induction hr with
  | refl => exact inv_init
  | tail _ hn ih =>
    obtain ⟨a, ha⟩ := hn
    exact ih.step ha

theorem Inv.eventsOpen (hi : Inv c) (hl : c.loop ≠ .done) : c.eventsClosed = false := by
  simpa using hi.eventsClosed.not.2 hl

/-! ## No panic and no blocked send -/

theorem step_error {p : Panic} (h : c.step a = some (.error p)) :
    c.eventsClosed = true ∧ c.loop ≠ .done := by
  have hsend : ∀ e, c.sendEvent e = some (.error p) → c.eventsClosed = true := fun e h => by
    unfold sendEvent at h
    split_ifs at h with h₁ <;> first | exact h₁ | cases h
  cases a <;> simp only [step] at h
  case deliver | push =>
    split at h
    · rename_i hl; exact ⟨hsend _ h, by simp [hl]⟩
    · cases h
  case finish =>
    split_ifs at h with hl he <;> cases h
    exact ⟨he, by simp [hl]⟩
  all_goals (repeat' split at h) <;> cases h

/-- The read loop never panics and never blocks on the channel: no reachable step panics, and
the send after a drop, the one without a `select`, always has room. -/
theorem readLoop_never_panics_or_blocks (hr : Reachable c) :
    (∀ a p, c.step a ≠ some (.error p)) ∧ ∀ e, c.loop = .push e → ∃ c', c.step .push = some (.ok c') := by
  have hi := hr.inv
  refine ⟨fun a p h => ?_, fun e hl => ⟨{ c with events := c.events ++ [e], loop := .top }, ?_⟩⟩
  · obtain ⟨he, hl⟩ := step_error h
    simp [hi.eventsOpen hl] at he
  · simp [step, hl, sendEvent, hi.eventsOpen (by simp [hl]), hi.room e hl]

/-! ## Events arrive in order -/

theorem filterMap_fst_sublist : ∀ (l : List (Bool × Event)) (b : Bool),
    (l.filterMap fun p => if p.1 = b then some p.2 else none).Sublist (l.map Prod.snd)
  | [], _ => .slnil
  | p :: l, b => by
    by_cases hp : p.1 = b
    · simpa [hp] using (filterMap_fst_sublist l b).cons₂ p.2
    · simpa [hp] using (filterMap_fst_sublist l b).cons p.2

/-- A reader of `Events()` gets the server's events in order: what the readers received and what
the loop dropped are each a subsequence of what the server sent. -/
theorem events_in_order (hr : Reachable c) :
    eventsOf c.sent =
        c.taken.map Prod.snd ++ c.events ++ pending c.loop ++ c.lost ++ eventsOf c.incoming ∧
      c.received.Sublist (eventsOf c.sent) ∧ c.dropped.Sublist (eventsOf c.sent) := by
  have hi := hr.inv
  have hs : eventsOf c.sent =
      c.taken.map Prod.snd ++ (c.events ++ pending c.loop ++ c.lost ++ eventsOf c.incoming) := by
    rw [hi.frames, ← hi.conserve]
    simp
  refine ⟨by rw [hs]; simp, ?_, ?_⟩ <;> rw [hs] <;> refine List.Sublist.trans ?_ (List.sublist_append_left _ _)
  · simpa [received] using filterMap_fst_sublist c.taken true
  · simpa [dropped] using filterMap_fst_sublist c.taken false

/-! ## `Close` ends the read loop -/

/-- How far the loop is from returning once `done` is closed. -/
def rank : LoopPc → Nat
  | .done => 0
  | .exit => 1
  | .top | .reading => 2
  | .send _ | .push _ => 3
  | .drop _ => 4

theorem step_after_close (hr : Reachable c) (hd : c.doneClosed) (h : c.step a = some (.ok c')) :
    c'.doneClosed ∧ (a.isLoop → rank c'.loop < rank c.loop) ∧ (a.isLoop = false → c'.loop = c.loop) := by
  have hcc := hr.inv.doneClosed hd
  rcases step_cases h with ⟨f, rfl, rfl⟩ | ⟨rfl, rfl⟩ | ⟨rfl, hl, -, rfl⟩ | ⟨rfl, -, hdc, -⟩ |
      ⟨rfl, hl, rfl⟩ | ⟨e, rest, rfl, -, hcc', -, -⟩ | ⟨rest, rfl, -, hcc', -, -⟩ |
      ⟨e, ⟨rfl, hl⟩ | ⟨rfl, hl⟩, -, -, rfl⟩ | ⟨e, rfl, hl, -, rfl⟩ | ⟨e, rfl, -, -, hdc, -⟩ |
      ⟨e, x, t, rfl, hl, -, rfl⟩ | ⟨e, rfl, hl, -, rfl⟩ | ⟨rfl, hl, -, rfl⟩ | ⟨x, t, rfl, -, rfl⟩ |
      ⟨rfl, rfl | rfl⟩
  all_goals first
    | simp [hd] at hdc
    | simp [hcc] at hcc'
    | (simp [hd, Act.isLoop]; done)
    | simp [hd, hl, rank, Act.isLoop]

theorem runs_after_close : ∀ {c c' : WebSocketClient} (as : List Act), Reachable c → c.doneClosed →
    c.runs as = some c' → c'.doneClosed ∧ as.countP Act.isLoop + rank c'.loop ≤ rank c.loop
  | _, _, [], _, hd, h => by cases h; exact ⟨hd, by simp⟩
  | c, _, a :: as, hr, hd, h => by
    simp only [runs] at h
    split at h
    · rename_i c₁ h₁
      obtain ⟨hd₁, hlt, heq⟩ := step_after_close hr hd h₁
      obtain ⟨hd', hle⟩ := runs_after_close as (hr.tail ⟨a, h₁⟩) hd₁ h
      refine ⟨hd', ?_⟩
      cases ha : a.isLoop
      · simp [ha, heq ha] at hle ⊢; exact hle
      · have := hlt ha; simp [ha] at hle ⊢; omega
    · cases h

/-- `Close` ends the read loop: once it has run, the loop can take a step until it returns, and
along every run, whatever the readers and the server do, it returns within `rank c.loop` (at
most four) of its own steps, `done` staying closed. -/
theorem close_ends_readLoop (hr : Reachable c) (hd : c.doneClosed) :
    (c.loop ≠ .done → ∃ a c', a.isLoop ∧ c.step a = some (.ok c')) ∧
    (∀ a c', c.step a = some (.ok c') → c'.doneClosed ∧ (a.isLoop → rank c'.loop < rank c.loop) ∧
      (a.isLoop = false → c'.loop = c.loop)) ∧
    (∀ as c', c.runs as = some c' → c'.doneClosed ∧ as.countP Act.isLoop + rank c'.loop ≤ rank c.loop) := by
  have hi := hr.inv
  have hcc := hi.doneClosed hd
  refine ⟨fun hl => ?_, fun a c' h => step_after_close hr hd h, fun as c' h => runs_after_close as hr hd h⟩
  have hopen := hi.eventsOpen hl
  cases hc : c.loop with
  | top => exact ⟨.quit, _, rfl, by simp [step, hc, hd]; rfl⟩
  | reading => exact ⟨.readMessage, _, rfl, by simp [step, hc, hcc]; rfl⟩
  | send e => exact ⟨.abandon, _, rfl, by simp [step, hc, hd]; rfl⟩
  | drop e => cases he : c.events <;> exact ⟨.dropOldest, _, rfl, by simp [step, hc, he]; rfl⟩
  | push e => exact ⟨.push, _, rfl, by simp [step, hc, sendEvent, hopen, hi.room e hc]; rfl⟩
  | exit => exact ⟨.finish, _, rfl, by simp [step, hc, hopen]; rfl⟩
  | done => exact absurd hc hl

/-! ## Runs that fill the channel -/

def serverEvent (i : Nat) : Event := ⟨"task.completed", i⟩

def oneEvent (i : Nat) : List Act :=
  [.serverSend (.event (serverEvent i)), .enter, .readMessage, .deliver]

def filled (n : Nat) : WebSocketClient :=
  { init with
    sent := (List.range n).map fun i => .event (serverEvent i)
    parsed := (List.range n).map serverEvent
    events := (List.range n).map serverEvent }

theorem filled_oneEvent {n : Nat} (hn : n < eventsCapacity) :
    (filled n).runs (oneEvent n) = some (filled (n + 1)) := by
  simp [runs, oneEvent, step, filled, init, sendEvent, hn, List.range_succ]

theorem runs_fill : ∀ n, n ≤ eventsCapacity →
    init.runs ((List.range n).flatMap oneEvent) = some (filled n)
  | 0, _ => rfl
  | n + 1, hn => by
    rw [List.range_succ, List.flatMap_append, runs_append, runs_fill n (by omega)]
    simpa using filled_oneEvent (by omega)

def holding : WebSocketClient :=
  { filled eventsCapacity with
    sent := (filled eventsCapacity).sent ++ [.event (serverEvent eventsCapacity)]
    parsed := (filled eventsCapacity).parsed ++ [serverEvent eventsCapacity]
    loop := .send (serverEvent eventsCapacity) }

theorem reachable_holding : Reachable holding :=
  runs_reaches ((List.range eventsCapacity).flatMap oneEvent ++
      [.serverSend (.event (serverEvent eventsCapacity)), .enter, .readMessage])
    (by rw [runs_append, runs_fill _ le_rfl]; rfl)

theorem readLoop_never_panics_or_blocks_holding :
    (∀ a p, holding.step a ≠ some (.error p)) ∧
      ∀ e, holding.loop = .push e → ∃ c', holding.step .push = some (.ok c') :=
  readLoop_never_panics_or_blocks reachable_holding

theorem events_in_order_holding :
    eventsOf holding.sent = holding.taken.map Prod.snd ++ holding.events ++ pending holding.loop ++
        holding.lost ++ eventsOf holding.incoming ∧
      holding.received.Sublist (eventsOf holding.sent) ∧
      holding.dropped.Sublist (eventsOf holding.sent) :=
  events_in_order reachable_holding

/- The loop can drop an event it had room for: a reader takes one event between the `select` that
finds the channel full and the one that drops, and the loop drops the next oldest anyway. -/
example : ∃ c', holding.runs [.overflow, .receive, .dropOldest, .push] = some c' ∧
    c'.dropped.length = holding.dropped.length + 1 ∧ c'.events.length < eventsCapacity :=
  ⟨_, rfl, rfl, by decide⟩

def closing : WebSocketClient := { holding with doneClosed := true, connClosed := true }

theorem close_ends_readLoop_closing :
    (closing.loop ≠ .done → ∃ a c', a.isLoop ∧ closing.step a = some (.ok c')) ∧
    (∀ a c', closing.step a = some (.ok c') → c'.doneClosed ∧
      (a.isLoop → rank c'.loop < rank closing.loop) ∧ (a.isLoop = false → c'.loop = closing.loop)) ∧
    (∀ as c', closing.runs as = some c' →
      c'.doneClosed ∧ as.countP Act.isLoop + rank c'.loop ≤ rank closing.loop) :=
  close_ends_readLoop (reachable_holding.tail ⟨.close, rfl⟩) rfl

end WebSocketClient

end TaskQueue.GoClient
