import Mathlib.Data.Rat.Floor
import RmtPlatform.Process.FixedWindow

/-! The rate limiter.

A key is a principal and a bucket. `_check` counts every request in the key's window,
accepted or not, and begins a new window with the first request 60 s or more after the
start. So the limit is one on windows, not on every 60 s: around the end of a window
twice as many requests are accepted (`check_bounds`). -/
namespace RmtPlatform.Ops

open FixedWindow (Window)

/-- `_WINDOW_SECONDS`. -/
def windowSeconds : Rat := 60

/-- The principal and the bucket. -/
abbrev Key := String × String

/-- `_hits`. -/
abbrev Hits := Key → Option (Window Rat)

/-- The exception of a request that is not accepted. -/
structure TooManyRequests where
  status : Nat
  detail : String
  retryAfter : Int
deriving DecidableEq

/-- `int` of a number. -/
def truncated (q : Rat) : Int := if 0 ≤ q then ⌊q⌋ else ⌈q⌉

/-- The `Retry-After` of a request at `now` in a window that began at `start`. -/
def retryAfter (start now : Rat) : Int := max 1 (truncated (windowSeconds - (now - start)))

/-- `_check`. -/
def check (hits : Hits) (key : Key) (limit : Int) (now : Rat) : Except TooManyRequests Unit × Hits :=
  let window := (hits key).getD ⟨now, 0⟩
  let window := if windowSeconds ≤ now - window.start then ⟨now, 0⟩ else window
  let window : Window Rat := ⟨window.start, window.count + 1⟩
  let hits := Function.update hits key (some window)
  if limit < window.count then
    (.error ⟨429, "rate limit exceeded: >" ++ toString limit ++ " requests / 60s for this principal on '" ++ key.2 ++ "'",
      retryAfter window.start now⟩, hits)
  else (.ok (), hits)

/-- What the routes with a limit look up before they check. -/
structure Limits where
  ratelimitEnabled : Bool
  ratelimitExecutePerMin : Int
  ratelimitAgentPerMin : Int

/-- `_principal`: the operator, or else the peer. -/
def principal (operator client : Option String) : String :=
  match operator with
  | some "" | none => client.getD "unknown"
  | some name => name

/-- What the two dependencies share. -/
def rateLimit (limits : Limits) (bucket : String) (limit : Int) (operator client : Option String) (hits : Hits) (now : Rat) :
    Except TooManyRequests Unit × Hits :=
  if limits.ratelimitEnabled then check hits (principal operator client, bucket) limit now else (.ok (), hits)

def rateLimitExecute (limits : Limits) : Option String → Option String → Hits → Rat → Except TooManyRequests Unit × Hits :=
  rateLimit limits "execute" limits.ratelimitExecutePerMin

def rateLimitAgent (limits : Limits) : Option String → Option String → Hits → Rat → Except TooManyRequests Unit × Hits :=
  rateLimit limits "agent" limits.ratelimitAgentPerMin

/-! ### Runs -/

/-- A request that is checked. -/
structure Arrival where
  key : Key
  limit : Int
  now : Rat

/-- The counters after these requests. -/
def served (hits : Hits) (arrivals : List Arrival) : Hits :=
  arrivals.foldl (fun hits a => (check hits a.key a.limit a.now).2) hits

/-- The times of the key's requests that are accepted. -/
def acceptedTimes (key : Key) : Hits → List Arrival → List Rat
  | _, [] => []
  | hits, a :: rest =>
    let (answer, hits) := check hits a.key a.limit a.now
    if a.key = key ∧ answer = .ok () then a.now :: acceptedTimes key hits rest else acceptedTimes key hits rest

/-- Requests one after another, the key's with the limit. -/
structure Steady (key : Key) (limit : Int) (arrivals : List Arrival) : Prop where
  sorted : arrivals.Pairwise fun a b => a.now ≤ b.now
  limited : ∀ a ∈ arrivals, a.key = key → a.limit = limit

/-- A request of one of the limited routes. -/
structure RouteCall where
  agent : Bool
  operator : Option String
  client : Option String
  now : Rat

namespace RouteCall

def serve (limits : Limits) (c : RouteCall) (hits : Hits) : Except TooManyRequests Unit × Hits :=
  if c.agent then rateLimitAgent limits c.operator c.client hits c.now
  else rateLimitExecute limits c.operator c.client hits c.now

/-- What is checked of it. -/
def arrival (limits : Limits) (c : RouteCall) : Arrival where
  key := (principal c.operator c.client, if c.agent then "agent" else "execute")
  limit := if c.agent then limits.ratelimitAgentPerMin else limits.ratelimitExecutePerMin
  now := c.now

theorem serve_eq {limits : Limits} (enabled : limits.ratelimitEnabled = true) (c : RouteCall) (hits : Hits) :
    c.serve limits hits = check hits (c.arrival limits).key (c.arrival limits).limit (c.arrival limits).now := by
  unfold serve arrival rateLimitAgent rateLimitExecute rateLimit
  cases c.agent <;> simp [enabled]

/-- A key stands for one bucket, so it has one limit. -/
theorem steady {limits : Limits} {calls : List RouteCall} (sorted : calls.Pairwise fun a b => a.now ≤ b.now) (key : Key) :
    Steady key (if key.2 = "agent" then limits.ratelimitAgentPerMin else limits.ratelimitExecutePerMin)
      (calls.map (·.arrival limits)) where
  sorted := List.pairwise_map.mpr sorted
  limited a mem own := by
    obtain ⟨c, -, rfl⟩ := List.mem_map.mp mem
    rw [← own]
    unfold arrival
    cases c.agent <;> simp

/-- The times of the key's requests that the routes accept. -/
def accepted (limits : Limits) (key : Key) : Hits → List RouteCall → List Rat
  | _, [] => []
  | hits, c :: rest =>
    let (answer, hits) := c.serve limits hits
    if (c.arrival limits).key = key ∧ answer = .ok () then c.now :: accepted limits key hits rest
    else accepted limits key hits rest

theorem accepted_eq {limits : Limits} (enabled : limits.ratelimitEnabled = true) (key : Key) (hits : Hits)
    (calls : List RouteCall) :
    accepted limits key hits calls = acceptedTimes key hits (calls.map (·.arrival limits)) := by
  induction calls generalizing hits with
  | nil => rfl
  | cons c rest ih =>
    rw [accepted, serve_eq enabled, List.map_cons, acceptedTimes]
    simp only [ih]
    rfl

end RouteCall

/-! ### One request -/

section
variable {hits : Hits} {key : Key} {limit : Int} {now : Rat}

/-- The window of the code is the one a request falls in. -/
theorem check_window : (if windowSeconds ≤ now - ((hits key).getD ⟨now, 0⟩).start then ⟨now, 0⟩
    else (hits key).getD ⟨now, 0⟩) = FixedWindow.current windowSeconds (hits key) now := by
  unfold FixedWindow.current
  cases hits key with
  | none =>
    have fresh : ¬windowSeconds ≤ now - now := by simp [windowSeconds]
    rw [Option.getD_none, if_neg fresh]
  | some window => rfl

/-- Every request is counted in the window it falls in. -/
theorem check_hits : (check hits key limit now).2 =
    Function.update hits key (some (FixedWindow.next windowSeconds (hits key) now)) := by
  simp only [check, check_window]
  split <;> rfl

/-- It is accepted if and only if the window's count is within the limit. -/
theorem check_accepts : (check hits key limit now).1 = .ok () ↔
    (FixedWindow.next windowSeconds (hits key) now).count ≤ limit.toNat := by
  have counted : 0 < (FixedWindow.next windowSeconds (hits key) now).count := FixedWindow.next_count_pos
  have same : (check hits key limit now).1 = .ok () ↔ ¬limit < (FixedWindow.next windowSeconds (hits key) now).count := by
    simp only [check, check_window, FixedWindow.next]
    split
    · next exceeded => exact iff_of_false (by simp) (not_not.mpr exceeded)
    · next within => exact iff_of_true rfl within
  rw [same]
  omega

/-- A refusal gives the whole seconds that are left of the window. -/
theorem check_refuses {e : TooManyRequests} (refused : (check hits key limit now).1 = .error e) :
    e.retryAfter = retryAfter (FixedWindow.next windowSeconds (hits key) now).start now := by
  simp only [check, check_window] at refused
  split at refused <;> cases refused
  rfl

/-- Whole seconds are what is left, if what is left is whole. -/
theorem left_le_retryAfter {start now : Rat} {left : Int} (whole : windowSeconds - (now - start) = left) :
    (left : Rat) ≤ retryAfter start now := by
  have kept : truncated (left : Rat) = left := by
    unfold truncated
    split <;> simp
  rw [retryAfter, whole, kept]
  exact_mod_cast le_max_right 1 left

/-- A second more than what is told is enough. -/
theorem left_lt_retryAfter (start now : Rat) : windowSeconds - (now - start) < retryAfter start now + 1 := by
  have below : windowSeconds - (now - start) < (truncated (windowSeconds - (now - start)) : Rat) + 1 := by
    unfold truncated
    split
    · exact Int.lt_floor_add_one _
    · exact (Int.le_ceil _).trans_lt (lt_add_one _)
  have told : (truncated (windowSeconds - (now - start)) : Rat) ≤ retryAfter start now := by
    rw [retryAfter]
    exact_mod_cast le_max_right 1 _
  linarith

end

/-! ### Runs of requests -/

section
variable {hits : Hits} {key : Key} {limit : Int} {arrivals : List Arrival}

/-- The key's requests. -/
def timesOf (key : Key) (arrivals : List Arrival) : List Rat := (arrivals.filter (·.key = key)).map (·.now)

theorem timesOf_own {a : Arrival} {rest : List Arrival} (own : a.key = key) :
    timesOf key (a :: rest) = a.now :: timesOf key rest := by
  rw [timesOf, List.filter_cons_of_pos (by simpa using own)]
  rfl

theorem timesOf_other {a : Arrival} {rest : List Arrival} (other : a.key ≠ key) :
    timesOf key (a :: rest) = timesOf key rest := by
  rw [timesOf, List.filter_cons_of_neg (by simpa using other)]
  rfl

/-- What happens to a key is a fixed window over its own requests. -/
theorem acceptedTimes_eq (limited : ∀ a ∈ arrivals, a.key = key → a.limit = limit) :
    acceptedTimes key hits arrivals =
      FixedWindow.accepted windowSeconds limit.toNat (hits key) (timesOf key arrivals) := by
  induction arrivals generalizing hits with
  | nil => rfl
  | cons a rest ih =>
    have rest_limited : ∀ b ∈ rest, b.key = key → b.limit = limit := fun b mem => limited b (List.mem_cons_of_mem a mem)
    rw [acceptedTimes]
    dsimp only
    rw [ih rest_limited, check_hits]
    by_cases own : a.key = key
    · rw [timesOf_own own, FixedWindow.accepted, own, Function.update_self, limited a List.mem_cons_self own]
      simp only [true_and, check_accepts]
    · rw [timesOf_other own, Function.update_of_ne (Ne.symm own), if_neg (fun h => own h.1)]

theorem served_eq : served hits arrivals key = FixedWindow.after windowSeconds (hits key) (timesOf key arrivals) := by
  induction arrivals generalizing hits with
  | nil => rfl
  | cons a rest ih =>
    rw [served, List.foldl_cons, ← served, ih, check_hits]
    by_cases own : a.key = key
    · rw [timesOf_own own, own, Function.update_self]
      rfl
    · rw [timesOf_other own, Function.update_of_ne (Ne.symm own)]

theorem timesOf_sorted (sorted : arrivals.Pairwise fun a b => a.now ≤ b.now) : (timesOf key arrivals).Pairwise (· ≤ ·) :=
  List.pairwise_map.mpr (sorted.sublist List.filter_sublist)

theorem timesOf_append (before later : List Arrival) : timesOf key (before ++ later) = timesOf key before ++ timesOf key later := by
  rw [timesOf, List.filter_append, List.map_append, ← timesOf, ← timesOf]

theorem timesOf_silent (silent : ∀ a ∈ arrivals, a.key ≠ key) : timesOf key arrivals = [] := by
  rw [timesOf, List.filter_eq_nil_iff.mpr fun a mem => by simpa using silent a mem]
  rfl

/-- Other keys leave a window as it is. -/
theorem served_silent (silent : ∀ a ∈ arrivals, a.key ≠ key) : served hits arrivals key = hits key := by
  rw [served_eq, timesOf_silent silent]
  rfl

end

/-- How a key stands when it is refused: the request, what others send, and its next request. -/
structure Refusal (key : Key) (limit : Int) (arrivals : List Arrival) where
  earlier : List Arrival
  refused : Arrival
  others : List Arrival
  request : Arrival
  later : List Arrival
  run : arrivals = earlier ++ refused :: (others ++ request :: later)
  own : refused.key = key
  silent : ∀ a ∈ others, a.key ≠ key
  same : request.key = key
  exception : TooManyRequests
  raised : (check (served (fun _ => none) earlier) key limit refused.now).1 = .error exception

namespace Refusal
variable {key : Key} {limit : Int} {arrivals : List Arrival} (r : Refusal key limit arrivals)

/-- The counters before the next request. -/
def hits : Hits := served (fun _ => none) (r.earlier ++ r.refused :: r.others)

/-- The window that is full. -/
def window : Window Rat :=
  FixedWindow.next windowSeconds (served (fun _ => none) r.earlier key) r.refused.now

/-- The time that is left of it. -/
def left : Rat := windowSeconds - (r.refused.now - r.window.start)

/-- The next request is accepted. -/
def Accepted : Prop := (check r.hits key limit r.request.now).1 = .ok ()

theorem hits_key : r.hits key = some r.window := by
  have stepped : r.hits = served (check (served (fun _ => none) r.earlier) r.refused.key r.refused.limit r.refused.now).2 r.others := by
    rw [hits, served, List.foldl_append, List.foldl_cons]
    rfl
  rw [stepped, served_silent r.silent, check_hits, r.own, Function.update_self]
  rfl

/-- The client has to wait for the end of the window. -/
theorem accepted_of_left (some_limit : 1 ≤ limit) (waits : r.left ≤ r.request.now - r.refused.now) : r.Accepted := by
  have ended : r.window.start + windowSeconds ≤ r.request.now := by
    rw [left] at waits
    linarith
  apply check_accepts.mpr
  rw [r.hits_key]
  exact FixedWindow.accepts_rolled ended (by omega)

end Refusal

/-- Around the end of a window, twice as many requests are accepted. -/
theorem Steady.interval {key : Key} {limit : Int} {arrivals : List Arrival} (steady : Steady key limit arrivals) (t : Rat) :
    (acceptedTimes key (fun _ => none) arrivals).countP (fun a => t ≤ a ∧ a ≤ t + windowSeconds) ≤ 2 * limit.toNat := by
  rw [acceptedTimes_eq steady.limited]
  exact FixedWindow.within_interval (by norm_num [windowSeconds]) (timesOf_sorted steady.sorted) t

/-- The limited routes keep to that, with the limit of the key's bucket. -/
theorem RouteCall.accepted_interval {limits : Limits} (enabled : limits.ratelimitEnabled = true) {calls : List RouteCall}
    (sorted : calls.Pairwise fun a b => a.now ≤ b.now) (key : Key) (t : Rat) :
    (RouteCall.accepted limits key (fun _ => none) calls).countP (fun a => t ≤ a ∧ a ≤ t + windowSeconds) ≤
      2 * (if key.2 = "agent" then limits.ratelimitAgentPerMin else limits.ratelimitExecutePerMin).toNat := by
  rw [RouteCall.accepted_eq enabled]
  exact (RouteCall.steady sorted key).interval t

/-- **What the limiter bounds**: the requests it accepts in a window by the limit, and those in any 60 s by twice the
limit; and a client that waits for the end of the window is accepted, for which `Retry-After` is enough where it is exact,
and a second more wherever it is not. -/
theorem check_bounds (key : Key) (limit : Int) (arrivals : List Arrival) (steady : Steady key limit arrivals) :
    (∀ t : Rat, (acceptedTimes key (fun _ => none) arrivals).countP (fun a => t ≤ a ∧ a ≤ t + windowSeconds) ≤
      2 * limit.toNat) ∧
    (∀ earlier later window, arrivals = earlier ++ later → served (fun _ => none) earlier key = some window →
      (acceptedTimes key (fun _ => none) arrivals).countP
        (fun a => window.start ≤ a ∧ a < window.start + windowSeconds) ≤ limit.toNat) ∧
    (1 ≤ limit → ∀ r : Refusal key limit arrivals,
      (r.left ≤ r.request.now - r.refused.now → r.Accepted) ∧
      ((∃ left : Int, r.left = left) → (r.exception.retryAfter : Rat) ≤ r.request.now - r.refused.now → r.Accepted) ∧
      ((r.exception.retryAfter : Rat) + 1 ≤ r.request.now - r.refused.now → r.Accepted)) := by
  have positive : 0 < windowSeconds := by norm_num [windowSeconds]
  have sorted : (timesOf key arrivals).Pairwise (· ≤ ·) := timesOf_sorted steady.sorted
  refine ⟨steady.interval, fun earlier later window run reached => ?_, fun some_limit r => ?_⟩
  · rw [acceptedTimes_eq steady.limited]
    rw [run, timesOf_append] at sorted ⊢
    rw [served_eq] at reached
    exact FixedWindow.within_reached positive sorted reached
  · have told : r.exception.retryAfter = retryAfter r.window.start r.refused.now := check_refuses r.raised
    refine ⟨r.accepted_of_left some_limit, ?_, fun waits => r.accepted_of_left some_limit ?_⟩
    · rintro ⟨left, whole⟩ waits
      apply r.accepted_of_left some_limit
      rw [told] at waits
      rw [whole]
      exact (left_le_retryAfter whole).trans waits
    · rw [told] at waits
      exact ((left_lt_retryAfter r.window.start r.refused.now).trans_le waits).le

namespace Sample

def execute : Key := ("alice", "execute")

def requests (limit : Int) (times : List Rat) : List Arrival := times.map fun now => ⟨execute, limit, now⟩

/-- Two requests end a window, and two begin the next. -/
def around : List Arrival := requests 2 [0, 59, 60, 60]

theorem requests_steady {limit : Int} {times : List Rat} (sorted : times.Pairwise (· ≤ ·)) :
    Steady execute limit (requests limit times) where
  sorted := List.pairwise_map.mpr sorted
  limited a mem _ := by
    obtain ⟨now, -, rfl⟩ := List.mem_map.mp mem
    rfl

/-- A request comes too soon, and the next one after what is left of the window. -/
def overrun : Refusal execute 1 (requests 1 [0, 1 / 2, 61]) where
  earlier := requests 1 [0]
  refused := ⟨execute, 1, 1 / 2⟩
  others := []
  request := ⟨execute, 1, 61⟩
  later := []
  run := rfl
  own := rfl
  silent := by simp
  same := rfl
  exception := ⟨429, "rate limit exceeded: >1 requests / 60s for this principal on 'execute'", 59⟩
  raised := by decide +kernel

end Sample

/-- **Three requests within 60 s under a limit of two; and a client told to wait 59 s that does so and is refused again.** -/
theorem rolling_exceeded :
    (Steady Sample.execute 2 Sample.around ∧
      (acceptedTimes Sample.execute (fun _ => none) Sample.around).countP (fun a => 1 ≤ a ∧ a ≤ 1 + windowSeconds) = 3) ∧
    (check (served (fun _ => none) (Sample.requests 1 [0])) Sample.execute 1 (1 / 2)).1 =
      .error ⟨429, "rate limit exceeded: >1 requests / 60s for this principal on 'execute'", 59⟩ ∧
    (check (served (fun _ => none) (Sample.requests 1 [0, 1 / 2])) Sample.execute 1 (1 / 2 + 59)).1 ≠ .ok () := by
  refine ⟨⟨Sample.requests_steady (by norm_num), by decide +kernel⟩, by decide +kernel, ?_⟩
  rw [ne_eq, check_accepts]
  decide +kernel

/-- A client that is told to wait 59 s, and waits one more. -/
theorem check_bounds_refused :
    (check (served (fun _ => none) (Sample.requests 1 [0])) Sample.execute 1 (1 / 2)).1 = .error Sample.overrun.exception ∧
      (Sample.overrun.exception.retryAfter : Rat) + 1 ≤ Sample.overrun.request.now - Sample.overrun.refused.now ∧
      Sample.overrun.Accepted := by
  have waits : (Sample.overrun.exception.retryAfter : Rat) + 1 ≤ Sample.overrun.request.now - Sample.overrun.refused.now := by
    norm_num [Sample.overrun]
  have sorted : [0, 1 / 2, (61 : Rat)].Pairwise (· ≤ ·) := by norm_num
  obtain ⟨-, -, refusals⟩ := check_bounds Sample.execute 1 _ (Sample.requests_steady sorted)
  exact ⟨Sample.overrun.raised, waits, (refusals le_rfl Sample.overrun).2.2 waits⟩

end RmtPlatform.Ops
