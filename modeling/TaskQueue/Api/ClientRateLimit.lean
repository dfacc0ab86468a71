import TaskQueue.Api.RateLimit
import TaskQueue.Api.Handlers
set_option autoImplicit false

namespace TaskQueue.Middleware

open RateLimiter

structure Request where
  forwardedFor : String
  remoteAddr : String
  deriving DecidableEq, Repr

def tooManyRequests : Response :=
  .json 429 [("error", "Too Many Requests"), ("message", "rate limit exceeded")]

def limitReply (ok : Bool) : Option Response := if ok then none else some tooManyRequests

variable {α : Type} [LinearOrderedField α]

def rateLimit (limiter : RateLimiter α) (now : α) : Option Response × RateLimiter α :=
  (limitReply (limiter.allow now).1, (limiter.allow now).2)

/-- `ClientRateLimiter`: the limiter of each client id, and the rate a new one gets. -/
structure ClientRateLimiter (α : Type) where
  limiters : String → Option (RateLimiter α)
  rps : Int

namespace ClientRateLimiter

def new (rps : Int) : ClientRateLimiter α := ⟨fun _ => none, rps⟩

def cleanup (crl : ClientRateLimiter α) : ClientRateLimiter α :=
  { crl with limiters := fun _ => none }

def getLimiter (crl : ClientRateLimiter α) (clientID : String) (now : α) :
    RateLimiter α × ClientRateLimiter α :=
  match crl.limiters clientID with
  | some limiter => (limiter, crl)
  | none =>
    (newRateLimiter crl.rps now,
      { crl with limiters := Function.update crl.limiters clientID (some (newRateLimiter crl.rps now)) })

def clientID (r : Request) : String := if r.forwardedFor = "" then r.remoteAddr else r.forwardedFor

/-- `ClientRateLimit` on a request at time `now`; `Allow` updates the client's limiter in place. -/
def clientRateLimit (crl : ClientRateLimiter α) (r : Request) (now : α) :
    Option Response × ClientRateLimiter α :=
  let (limiter, crl) := crl.getLimiter (clientID r) now
  (limitReply (limiter.allow now).1,
    { crl with limiters := Function.update crl.limiters (clientID r) (some (limiter.allow now).2) })

end ClientRateLimiter

inductive Ev (α : Type)
  | request (r : Request) (now : α)
  | cleanup

namespace ClientRateLimiter

def replies : ClientRateLimiter α → List (Ev α) → List (String × Option Response)
  | _, [] => []
  | crl, .cleanup :: evs => replies crl.cleanup evs
  | crl, .request r now :: evs =>
    (clientID r, (crl.clientRateLimit r now).1) :: replies (crl.clientRateLimit r now).2 evs

def repliesTo (c : String) (crl : ClientRateLimiter α) (evs : List (Ev α)) : List (Option Response) :=
  ((crl.replies evs).filter (·.1 = c)).map (·.2)

end ClientRateLimiter

/-- One client's limiter on its own: a bucket made at the client's first request after each
cleanup, which only that client's requests use. -/
def dedicated (rps : Int) (c : String) : Option (RateLimiter α) → List (Ev α) → List (Option Response)
  | _, [] => []
  | _, .cleanup :: evs => dedicated rps c none evs
  | b, .request r now :: evs =>
    if ClientRateLimiter.clientID r = c then
      limitReply ((b.getD (newRateLimiter rps now)).allow now).1 ::
        dedicated rps c (some ((b.getD (newRateLimiter rps now)).allow now).2) evs
    else dedicated rps c b evs

namespace ClientRateLimiter

variable (crl : ClientRateLimiter α) (r : Request) (now : α)

def limiterFor : RateLimiter α := (crl.limiters (clientID r)).getD (newRateLimiter crl.rps now)

theorem clientRateLimit_fst :
    (crl.clientRateLimit r now).1 = limitReply ((crl.limiterFor r now).allow now).1 := by
  cases h : crl.limiters (clientID r) <;> simp [clientRateLimit, getLimiter, limiterFor, h]

theorem clientRateLimit_snd : (crl.clientRateLimit r now).2 =
    { crl with
      limiters := Function.update crl.limiters (clientID r) (some ((crl.limiterFor r now).allow now).2) } := by
  cases h : crl.limiters (clientID r) <;> simp [clientRateLimit, getLimiter, limiterFor, h]

end ClientRateLimiter

open ClientRateLimiter in
/-- Every client is served as if it had the limiter to itself: over every run of requests from
any clients and cleanup ticks, the replies to client `c` are those of a bucket only `c` uses,
made at `c`'s first request after each cleanup. Other clients' requests never change them. -/
theorem repliesTo_eq_dedicated (c : String) : ∀ (crl : ClientRateLimiter α) (evs : List (Ev α)),
    crl.repliesTo c evs = dedicated crl.rps c (crl.limiters c) evs
  | _, [] => rfl
  | crl, .cleanup :: evs => by
    simpa [repliesTo, replies, dedicated, cleanup] using repliesTo_eq_dedicated c crl.cleanup evs
  | crl, .request r now :: evs => by
    have ih := repliesTo_eq_dedicated c (crl.clientRateLimit r now).2 evs
    rw [clientRateLimit_snd] at ih
    by_cases hc : clientID r = c
    · subst hc
      simpa [repliesTo, replies, dedicated, clientRateLimit_fst, clientRateLimit_snd, limiterFor] using ih
    · simpa [repliesTo, replies, dedicated, hc, clientRateLimit_snd,
        Function.update_noteq (Ne.symm hc)] using ih

def timesOf (c : String) : List (Ev α) → List α
  | [] => []
  | .cleanup :: evs => timesOf c evs
  | .request r now :: evs =>
    if ClientRateLimiter.clientID r = c then now :: timesOf c evs else timesOf c evs

def Ev.isCleanup : Ev α → Bool
  | .cleanup => true
  | .request _ _ => false

def bucketReplies (rps : Int) : List α → List (Option Response)
  | [] => []
  | t :: ts => ((newRateLimiter rps t).allowed (t :: ts)).map limitReply

theorem dedicated_some_of_no_cleanup (rps : Int) (c : String) : ∀ (b : RateLimiter α) (evs : List (Ev α)),
    (∀ ev ∈ evs, ev.isCleanup = false) →
    dedicated rps c (some b) evs = (b.allowed (timesOf c evs)).map limitReply
  | _, [], _ => rfl
  | _, .cleanup :: _, h => by simp [Ev.isCleanup] at h
  | b, .request r now :: evs, h => by
    have hrest : ∀ ev ∈ evs, ev.isCleanup = false := fun ev hev => h ev (List.mem_cons_of_mem _ hev)
    by_cases hc : ClientRateLimiter.clientID r = c
    · simp [dedicated, timesOf, hc, allowed, dedicated_some_of_no_cleanup rps c _ evs hrest]
    · simp [dedicated, timesOf, hc, dedicated_some_of_no_cleanup rps c b evs hrest]

theorem dedicated_none_of_no_cleanup (rps : Int) (c : String) : ∀ (evs : List (Ev α)),
    (∀ ev ∈ evs, ev.isCleanup = false) → dedicated rps c none evs = bucketReplies rps (timesOf c evs)
  | [], _ => rfl
  | .cleanup :: _, h => by simp [Ev.isCleanup] at h
  | .request r now :: evs, h => by
    have hrest : ∀ ev ∈ evs, ev.isCleanup = false := fun ev hev => h ev (List.mem_cons_of_mem _ hev)
    by_cases hc : ClientRateLimiter.clientID r = c
    · simp [dedicated, timesOf, hc, bucketReplies, allowed,
        dedicated_some_of_no_cleanup rps c _ evs hrest]
    · simp [dedicated, timesOf, hc, dedicated_none_of_no_cleanup rps c evs hrest]

open ClientRateLimiter in
/-- Between cleanups each client is answered by the token bucket of `NewRateLimiter`: over every
run without a cleanup tick, the replies to client `c` are those of one bucket made at `c`'s first
request and called at each of `c`'s request times. -/
theorem repliesTo_eq_bucketReplies (rps : Int) (c : String) (evs : List (Ev α))
    (h : ∀ ev ∈ evs, ev.isCleanup = false) :
    (ClientRateLimiter.new rps).repliesTo c evs = bucketReplies rps (timesOf c evs) := by
  rw [repliesTo_eq_dedicated]
  exact dedicated_none_of_no_cleanup rps c evs h

theorem repliesTo_eq_bucketReplies_two_clients :
    (ClientRateLimiter.new 1).repliesTo "a"
        [.request ⟨"a", "10.0.0.1"⟩ 0, .request ⟨"b", "10.0.0.2"⟩ 0, .request ⟨"a", "10.0.0.1"⟩ (1 : ℚ)] =
      bucketReplies 1 (timesOf "a"
        [.request ⟨"a", "10.0.0.1"⟩ 0, .request ⟨"b", "10.0.0.2"⟩ 0, .request ⟨"a", "10.0.0.1"⟩ (1 : ℚ)]) :=
  repliesTo_eq_bucketReplies 1 "a" _ (by decide)

theorem allowed_window_le {rl : RateLimiter α} (h : rl.Inv) (hr : 0 ≤ rl.refillRate) {ts : List α}
    (hts : (rl.lastRefill :: ts).Pairwise (· ≤ ·)) {i j : Nat} (hij : i ≤ j) (hj : j < ts.length) :
    ((((rl.allowed ts).drop i).take (j + 1 - i)).count true : α) ≤
      rl.maxTokens + rl.refillRate * (ts[j] - ts[i]) := by
  have hpre : (rl.allowAll (ts.take (j + 1))).Inv :=
    inv_allowAll h hr (hts.sublist ((List.take_sublist _ ts).cons₂ _))
  have hwin : (ts.drop i).take (j + 1 - i) = ts[i] :: (ts.drop (i + 1)).take (j - i) := by
    rw [List.drop_eq_getElem_cons (by omega), show j + 1 - i = j - i + 1 by omega,
      List.take_succ_cons]
  have hend : (rl.allowAll (ts.take i)).allowAll ((ts.drop i).take (j + 1 - i)) =
      rl.allowAll (ts.take (j + 1)) := by
    rw [← allowAll_append, ← List.take_add, show i + (j + 1 - i) = j + 1 by omega]
  have hlast : (rl.allowAll (ts.take (j + 1))).lastRefill = ts[j] := by
    rw [List.take_succ, List.getElem?_eq_getElem hj]; exact allowAll_concat_lastRefill ..
  have hw := count_allowed_window (rl.allowAll (ts.take i)) ts[i] ((ts.drop (i + 1)).take (j - i))
  rw [← hwin, hend, hlast, allowAll_maxTokens, allowAll_refillRate] at hw
  rw [allowed_drop, allowed_take]
  linarith [hpre.1]

theorem count_none_map_limitReply (l : List Bool) : (l.map limitReply).count none = l.count true := by
  induction l with
  | nil => rfl
  | cons b l ih => cases b <;> simp [limitReply, tooManyRequests, List.count_cons, ih]

theorem bucketReplies_window (rps : Int) (hrps : 0 < rps) {ts : List α} (hts : ts.Pairwise (· ≤ ·))
    {i j : Nat} (hij : i ≤ j) (hj : j < ts.length) :
    ((((bucketReplies rps ts).drop i).take (j + 1 - i)).count none : α) ≤
      rps + rps * (ts[j] - ts[i]) := by
  cases ts with
  | nil => simp at hj
  | cons t ts =>
    have hr : (0 : α) ≤ rps := Int.cast_nonneg.2 hrps.le
    have hfirst : ∀ x ∈ t :: ts, t ≤ x := by
      simpa using fun x hx => (List.pairwise_cons.1 hts).1 x hx
    have hw := allowed_window_le
      (show (newRateLimiter rps t).Inv by rw [newRateLimiter_of_pos hrps]; exact ⟨hr, le_rfl⟩)
      (by rw [newRateLimiter_of_pos hrps]; exact hr)
      (show ((newRateLimiter rps t).lastRefill :: t :: ts).Pairwise (· ≤ ·) by
        rw [newRateLimiter_of_pos hrps]; exact List.pairwise_cons.2 ⟨hfirst, hts⟩) hij hj
    rw [newRateLimiter_of_pos hrps] at hw
    simpa [bucketReplies, ← List.map_drop, ← List.map_take, count_none_map_limitReply,
      newRateLimiter_of_pos hrps] using hw

/-- Between cleanups, with its request times non-decreasing, client `c`'s requests `i..j` pass at
most `rps + rps * (ts[j] - ts[i])` times, whatever the other clients send. -/
theorem client_window_bound (rps : Int) (hrps : 0 < rps) (c : String) (evs : List (Ev α))
    (h : ∀ ev ∈ evs, ev.isCleanup = false) (hts : (timesOf c evs).Pairwise (· ≤ ·))
    (i j : Nat) (hij : i ≤ j) (hj : j < (timesOf c evs).length) :
    (((((ClientRateLimiter.new rps).repliesTo c evs).drop i).take (j + 1 - i)).count none : α) ≤
      rps + rps * ((timesOf c evs)[j] - (timesOf c evs)[i]) := by
  rw [repliesTo_eq_bucketReplies rps c evs h]
  exact bucketReplies_window rps hrps hts hij hj

theorem client_window_bound_two_clients :
    (((((ClientRateLimiter.new 1).repliesTo "a" [.request ⟨"a", "10.0.0.1"⟩ 0,
        .request ⟨"b", "10.0.0.2"⟩ 0, .request ⟨"a", "10.0.0.1"⟩ (1 : ℚ)]).drop 0).take (1 + 1 - 0)).count
        none : ℚ) ≤ (1 : Int) + (1 : Int) * ((1 : ℚ) - 0) :=
  client_window_bound 1 (by decide) "a" _ (by decide) (by simp [timesOf, ClientRateLimiter.clientID])
    0 1 (by decide) (by simp [timesOf, ClientRateLimiter.clientID])

theorem allow_newRateLimiter {rps : Int} (hrps : 1 ≤ rps) (now : α) :
    ((newRateLimiter rps now).allow now).1 = true := by
  rw [newRateLimiter_of_pos (by omega), allow_eq, refilled_eq_min]
  simp [show (1 : α) ≤ rps by exact_mod_cast hrps]

open ClientRateLimiter in
theorem replies_fresh_clients : ∀ (rs : List (Request × α)) (crl : ClientRateLimiter α),
    1 ≤ crl.rps → (∀ p ∈ rs, crl.limiters (clientID p.1) = none) →
    (rs.map (clientID ·.1)).Nodup →
    (crl.replies (rs.map fun p => .request p.1 p.2)).map (·.2) = rs.map fun _ => none
  | [], _, _, _, _ => rfl
  | (r, now) :: rs, crl, hrps, hfresh, hnd => by
    rw [List.map_cons, List.nodup_cons] at hnd
    have hnone := hfresh (r, now) (List.mem_cons_self _ _)
    have hrest : ∀ p ∈ rs, (crl.clientRateLimit r now).2.limiters (clientID p.1) = none := by
      intro p hp
      have hne : clientID p.1 ≠ clientID r := fun he => hnd.1 (List.mem_map.2 ⟨p, hp, he⟩)
      simpa [clientRateLimit_snd, Function.update_noteq hne] using
        hfresh p (List.mem_cons_of_mem _ hp)
    have ih := replies_fresh_clients rs _ (by simpa [clientRateLimit_snd] using hrps) hrest hnd.2
    simp only [List.map_cons, replies, ih]
    simp [clientRateLimit_fst, limiterFor, hnone, allow_newRateLimiter hrps, limitReply]

open ClientRateLimiter in
/-- The client id is the caller's `X-Forwarded-For`: requests with pairwise distinct non-empty
values all pass, however many arrive at one instant. -/
theorem forwardedFor_evades_limit (rps : Int) (hrps : 1 ≤ rps) (rs : List (Request × α))
    (hne : ∀ p ∈ rs, p.1.forwardedFor ≠ "") (hnd : (rs.map (·.1.forwardedFor)).Nodup) :
    ((ClientRateLimiter.new rps).replies (rs.map fun p => .request p.1 p.2)).map (·.2) =
      rs.map fun _ => none := by
  have hid : rs.map (clientID ·.1) = rs.map (·.1.forwardedFor) :=
    List.map_congr_left fun p hp => by simp [clientID, hne p hp]
  exact replies_fresh_clients rs _ hrps (fun _ _ => rfl) (hid ▸ hnd)

theorem forwardedFor_evades_limit_three_at_once :
    ((ClientRateLimiter.new 1).replies ([(⟨"10.0.0.1", "proxy"⟩, 0), (⟨"10.0.0.2", "proxy"⟩, 0),
        (⟨"10.0.0.3", "proxy"⟩, (0 : ℚ))].map fun p => .request p.1 p.2)).map (·.2) =
      [none, none, none] :=
  forwardedFor_evades_limit 1 (by decide) _ (by decide) (by decide)

end TaskQueue.Middleware
