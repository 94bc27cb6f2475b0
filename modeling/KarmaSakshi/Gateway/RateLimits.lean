import KarmaSakshi.Domain.ManifestDraft
import KarmaSakshi.Library.Windows
import Mathlib.Algebra.Order.Ring.Rat

/-!
The fixed-window rate limiter of the API, and the decisions of a sequence of checks.

The clock is exact: what `time.monotonic()` returns is a rational number of seconds.
-/

namespace KarmaSakshi.Gateway

open KarmaSakshi.Domain KarmaSakshi.Library

set_option autoImplicit false

/-- `WINDOW_SECONDS`. -/
def windowSeconds : ℚ := 60

structure Window where
  windowStart : ℚ
  count : Nat

/-- One window for every client key that was ever checked. -/
structure FixedWindowRateLimiter where
  limit : Nat
  buckets : Dict Window
  positive : 0 < limit

structure RateRequest where
  clientKey : String
  now : ℚ

/-- What a check decided, and whether it opened a window of its key. -/
structure RateDecision where
  request : RateRequest
  admitted : Bool
  opens : Bool

namespace FixedWindowRateLimiter

def init (limitPerMinute : Int) : Except PyError FixedWindowRateLimiter :=
  if positive : 0 < limitPerMinute.toNat then .ok ⟨limitPerMinute.toNat, .empty, positive⟩
  else .error ⟨.other "ValueError", "limit_per_minute must be >= 1"⟩

variable (limiter : FixedWindowRateLimiter)

def setBucket (clientKey : String) (window : Window) : FixedWindowRateLimiter :=
  { limiter with buckets := limiter.buckets.put clientKey window }

/-- There is no window of the key, or it is ended. -/
def windowOver (request : RateRequest) : Bool :=
  match limiter.buckets.get request.clientKey with
  | none => true
  | some bucket => decide (windowSeconds ≤ request.now - bucket.windowStart)

def check (request : RateRequest) : Except PyError Unit × FixedWindowRateLimiter :=
  match limiter.buckets.get request.clientKey with
  | none => (.ok (), limiter.setBucket request.clientKey ⟨request.now, 1⟩)
  | some bucket =>
      if windowSeconds ≤ request.now - bucket.windowStart then
        (.ok (), limiter.setBucket request.clientKey ⟨request.now, 1⟩)
      else if limiter.limit ≤ bucket.count then
        (.error ⟨.rateLimitExceeded, "rate limit exceeded (" ++ toString limiter.limit ++
          " requests/minute); fail closed"⟩, limiter)
      else
        (.ok (), limiter.setBucket request.clientKey { bucket with count := bucket.count + 1 })

def decision (request : RateRequest) : RateDecision where
  request := request
  admitted := (limiter.check request).1.isOk
  opens := limiter.windowOver request

/-- The decisions of a sequence of checks. -/
def serve (limiter : FixedWindowRateLimiter) : List RateRequest → List RateDecision
  | [] => []
  | request :: rest => limiter.decision request :: serve (limiter.check request).2 rest

/-- The limiter after them. -/
def after (limiter : FixedWindowRateLimiter) : List RateRequest → FixedWindowRateLimiter
  | [] => limiter
  | request :: rest => after (limiter.check request).2 rest

end FixedWindowRateLimiter

def RateDecision.ofKey (key : String) (decision : RateDecision) : Bool :=
  decision.request.clientKey == key

/-- The times at which requests of a key were admitted. -/
def admittedTimes (key : String) (decisions : List RateDecision) : List ℚ :=
  (decisions.filter (fun decision => decision.ofKey key && decision.admitted)).map
    (fun decision => decision.request.now)

/-! ### One check -/

namespace FixedWindowRateLimiter

variable {limiter : FixedWindowRateLimiter} {request : RateRequest} {key : String}
  {bucket : Window}

@[simp] theorem bucket_set {other : String} :
    (limiter.setBucket key bucket).buckets.get other =
      if other = key then some bucket else limiter.buckets.get other :=
  get_put limiter.buckets key other bucket

/-- What a check can do: open a window, count in the open one, or refuse. -/
inductive Checked (limiter : FixedWindowRateLimiter) (request : RateRequest) :
    RateDecision → FixedWindowRateLimiter → Prop where
  | opened (ended : ∀ bucket ∈ limiter.buckets.get request.clientKey,
        windowSeconds ≤ request.now - bucket.windowStart) :
      Checked limiter request ⟨request, true, true⟩
        (limiter.setBucket request.clientKey ⟨request.now, 1⟩)
  | counted (bucket : Window) (held : limiter.buckets.get request.clientKey = some bucket)
      (running : request.now - bucket.windowStart < windowSeconds)
      (room : bucket.count < limiter.limit) :
      Checked limiter request ⟨request, true, false⟩
        (limiter.setBucket request.clientKey { bucket with count := bucket.count + 1 })
  | refused (bucket : Window) (held : limiter.buckets.get request.clientKey = some bucket)
      (running : request.now - bucket.windowStart < windowSeconds)
      (full : limiter.limit ≤ bucket.count) :
      Checked limiter request ⟨request, false, false⟩ limiter

theorem check_cases :
    Checked limiter request (limiter.decision request) (limiter.check request).2 := by
  unfold decision check windowOver
  cases held : limiter.buckets.get request.clientKey with
  | none => exact .opened (fun _ impossible => by rw [held] at impossible; cases impossible)
  | some bucket =>
      dsimp only
      by_cases ended : windowSeconds ≤ request.now - bucket.windowStart
      · rw [if_pos ended, decide_eq_true ended]
        apply Checked.opened
        intro found same
        rw [held] at same
        obtain rfl := Option.some.inj same
        exact ended
      · rw [if_neg ended, decide_eq_false ended]
        by_cases full : limiter.limit ≤ bucket.count
        · rw [if_pos full]
          exact .refused bucket held (not_le.mp ended) full
        · rw [if_neg full]
          exact .counted bucket held (not_le.mp ended) (not_le.mp full)

theorem Checked.same_limit {decision : RateDecision} {later : FixedWindowRateLimiter}
    (checked : Checked limiter request decision later) : later.limit = limiter.limit := by
  cases checked with
  | opened ended => rfl
  | counted bucket held running room => rfl
  | refused bucket held running full => rfl

/-- A check leaves the windows of the other keys alone. -/
theorem Checked.other_keys {decision : RateDecision} {later : FixedWindowRateLimiter}
    (checked : Checked limiter request decision later) (other : key ≠ request.clientKey) :
    later.buckets.get key = limiter.buckets.get key := by
  cases checked with
  | opened ended => rw [bucket_set, if_neg other]
  | counted bucket held running room => rw [bucket_set, if_neg other]
  | refused bucket held running full => rfl

/-- A check looks at the window of its own key only. -/
theorem check_alike {twin : FixedWindowRateLimiter} (limits : twin.limit = limiter.limit)
    (buckets : twin.buckets.get request.clientKey = limiter.buckets.get request.clientKey) :
    twin.decision request = limiter.decision request ∧
      (twin.check request).2.buckets.get request.clientKey =
        (limiter.check request).2.buckets.get request.clientKey := by
  unfold decision check windowOver
  rw [buckets, limits]
  cases limiter.buckets.get request.clientKey with
  | none => exact ⟨rfl, by simp⟩
  | some bucket =>
      dsimp only
      split_ifs with ended full
      · exact ⟨rfl, by simp⟩
      · exact ⟨rfl, buckets⟩
      · exact ⟨rfl, by simp⟩

/-! ### Sequences of checks -/

theorem serve_append (limiter : FixedWindowRateLimiter) (earlier later : List RateRequest) :
    limiter.serve (earlier ++ later) =
      limiter.serve earlier ++ (limiter.after earlier).serve later := by
  induction earlier generalizing limiter with
  | nil => rfl
  | cons request rest ih => exact congrArg (List.cons _) (ih _)

/-- A decision in a sequence is that of the limiter after the requests before it. -/
theorem serve_splits {requests : List RateRequest} {before rest : List RateDecision}
    {made : RateDecision}
    (split : limiter.serve requests = before ++ made :: rest) :
    ∃ earlier request later, requests = earlier ++ request :: later ∧
      before = limiter.serve earlier ∧ made = (limiter.after earlier).decision request ∧
        rest = ((limiter.after earlier).check request).2.serve later := by
  induction before generalizing limiter requests with
  | nil =>
      cases requests with
      | nil => cases split
      | cons request later =>
          obtain ⟨same, others⟩ := List.cons.inj split
          exact ⟨[], request, later, rfl, rfl, same.symm, others.symm⟩
  | cons decision others ih =>
      cases requests with
      | nil => cases split
      | cons first requests =>
          obtain ⟨same, tail⟩ := List.cons.inj split
          obtain ⟨earlier, request, later, listed, served, decided, left⟩ := ih tail
          refine ⟨first :: earlier, request, later, ?_, ?_, decided, left⟩
          · rw [listed]
            rfl
          · rw [served, ← same]
            rfl

end FixedWindowRateLimiter

end KarmaSakshi.Gateway
