import KarmaSakshi.Gateway.RateLimits

/-!
What the rate limiter promises of every sequence of checks.

The windows of a key are tracked one by one: the admitted requests of the open window are
counted, and no interval of the length of a window meets more than two of them.
-/

namespace KarmaSakshi.Guarantees

open KarmaSakshi.Domain KarmaSakshi.Library KarmaSakshi.Gateway

set_option autoImplicit false

section Statement

variable (limit : Nat) (decisions : List RateDecision)

/-- The promises about the decisions made for one key. -/
structure KeepsLimit (key : String) : Prop where
  /-- From one opening of a window of the key to the next. -/
  perWindow : ∀ before opening middle rest, decisions = before ++ opening :: (middle ++ rest) →
    opening.ofKey key = true → opening.opens = true →
      (∀ decision ∈ middle, decision.ofKey key = true → decision.opens = false) →
        (admittedTimes key (opening :: middle)).length ≤ limit
  /-- In any interval of the length of a window. -/
  perInterval : ∀ first,
    countBetween (admittedTimes key decisions) first (first + windowSeconds) ≤ 2 * limit
  /-- A request is admitted unless as many were admitted in the time before it. -/
  noFalseRefusal : ∀ before decision rest, decisions = before ++ decision :: rest →
    decision.ofKey key = true →
      (admittedTimes key before).countP
          (fun time => decision.request.now < time + windowSeconds) < limit →
        decision.admitted = true

end Statement

section Tracking

variable {limiter : FixedWindowRateLimiter} {key : String} {decisions : List RateDecision}
  {request : RateRequest} {requests : List RateRequest}

theorem admitted_append (left right : List RateDecision) :
    admittedTimes key (left ++ right) = admittedTimes key left ++ admittedTimes key right := by
  rw [admittedTimes, List.filter_append, List.map_append, admittedTimes, admittedTimes]

theorem admitted_one (decision : RateDecision) :
    admittedTimes key [decision] =
      if decision.request.clientKey = key ∧ decision.admitted = true then [decision.request.now]
      else [] := by
  simp only [admittedTimes, RateDecision.ofKey, List.filter_cons, List.filter_nil, Bool.and_eq_true,
    beq_iff_eq]
  split_ifs <;> rfl

/-- The window of a key as the decisions made for it left it. -/
def Tracks (limit : Nat) (key : String) (decisions : List RateDecision) : Option Window → Prop
  | none => admittedTimes key decisions = []
  | some window => ∃ closed inside, admittedTimes key decisions = closed ++ inside ∧
      inside.length = window.count ∧
        Windowed limit windowSeconds closed inside window.windowStart

theorem window_lasts : (0 : ℚ) < windowSeconds := by
  unfold windowSeconds
  norm_num

/-- One check keeps track. -/
theorem check_tracks (tracks : Tracks limiter.limit key decisions (limiter.buckets.get key))
    (since : ∀ window ∈ limiter.buckets.get key, window.windowStart ≤ request.now) :
    Tracks limiter.limit key (decisions ++ [limiter.decision request])
      ((limiter.check request).2.buckets.get key) := by
  have checked := @FixedWindowRateLimiter.check_cases limiter request
  revert checked
  generalize limiter.decision request = decision
  generalize (limiter.check request).2 = later
  intro checked
  by_cases own : key = request.clientKey
  · subst own
    cases checked with
    | opened ended =>
        have admitted :
            admittedTimes request.clientKey [⟨request, true, true⟩] = [request.now] := by
          rw [admitted_one, if_pos ⟨rfl, rfl⟩]
        rw [FixedWindowRateLimiter.bucket_set, if_pos rfl]
        cases held : limiter.buckets.get request.clientKey with
        | none =>
            rw [held] at tracks
            refine ⟨[], [request.now], ?_, rfl, Windowed.start limiter.positive window_lasts⟩
            rw [admitted_append, admitted, show admittedTimes request.clientKey decisions = [] from
              tracks]
        | some window =>
            rw [held] at tracks
            obtain ⟨closed, inside, times, _, windowed⟩ := tracks
            have elapsed := ended window held
            refine ⟨closed ++ inside, [request.now], ?_, rfl,
              windowed.reopen limiter.positive window_lasts (by linarith)⟩
            rw [admitted_append, admitted, times]
    | counted bucket held running room =>
        have admitted :
            admittedTimes request.clientKey [⟨request, true, false⟩] = [request.now] := by
          rw [admitted_one, if_pos ⟨rfl, rfl⟩]
        rw [held] at tracks
        obtain ⟨closed, inside, times, counted, windowed⟩ := tracks
        rw [FixedWindowRateLimiter.bucket_set, if_pos rfl]
        refine ⟨closed, inside ++ [request.now], ?_, ?_,
          windowed.add (by omega) (since bucket held) (by linarith)⟩
        · rw [admitted_append, admitted, times, List.append_assoc]
        · rw [List.length_append, counted, List.length_singleton]
    | refused bucket held running full =>
        have none : admittedTimes request.clientKey [⟨request, false, false⟩] = [] := by
          rw [admitted_one, if_neg (fun both => Bool.false_ne_true both.2)]
        rw [held] at tracks ⊢
        obtain ⟨closed, inside, times, counted, windowed⟩ := tracks
        refine ⟨closed, inside, ?_, counted, windowed⟩
        rw [admitted_append, none, List.append_nil, times]
  · have skipped : admittedTimes key (decisions ++ [decision]) = admittedTimes key decisions := by
      have about : decision.request = request := by
        cases checked with
        | opened ended => rfl
        | counted bucket held running room => rfl
        | refused bucket held running full => rfl
      rw [admitted_append, admitted_one, about, if_neg (fun both => own both.1.symm),
        List.append_nil]
    rw [checked.other_keys own]
    cases held : limiter.buckets.get key with
    | none =>
        rw [held] at tracks
        exact skipped.trans tracks
    | some window =>
        rw [held] at tracks
        obtain ⟨closed, inside, times, rest⟩ := tracks
        exact ⟨closed, inside, skipped.trans times, rest⟩

/-- No window starts later than the check that looks at it. -/
theorem check_starts {later : RateRequest} (ordered : request.now ≤ later.now)
    (since : ∀ window ∈ limiter.buckets.get key, window.windowStart ≤ later.now) :
    ∀ window ∈ (limiter.check request).2.buckets.get key, window.windowStart ≤ later.now := by
  have checked := @FixedWindowRateLimiter.check_cases limiter request
  revert checked
  generalize limiter.decision request = decision
  generalize (limiter.check request).2 = next
  intro checked window held
  by_cases own : key = request.clientKey
  · subst own
    cases checked with
    | opened ended =>
        rw [FixedWindowRateLimiter.bucket_set, if_pos rfl] at held
        obtain rfl := Option.some.inj held
        exact ordered
    | counted bucket found running room =>
        rw [FixedWindowRateLimiter.bucket_set, if_pos rfl] at held
        obtain rfl := Option.some.inj held
        exact since bucket found
    | refused bucket found running full => exact since window held
  · rw [checked.other_keys own] at held
    exact since window held

theorem check_keeps_limit : (limiter.check request).2.limit = limiter.limit :=
  FixedWindowRateLimiter.check_cases.same_limit

/-- A whole sequence keeps track. -/
theorem serve_tracks (ordered : requests.Pairwise (fun first second => first.now ≤ second.now))
    (tracks : Tracks limiter.limit key decisions (limiter.buckets.get key))
    (since : ∀ request ∈ requests, ∀ window ∈ limiter.buckets.get key,
      window.windowStart ≤ request.now) :
    (limiter.after requests).limit = limiter.limit ∧
      Tracks limiter.limit key (decisions ++ limiter.serve requests)
        ((limiter.after requests).buckets.get key) := by
  induction requests generalizing limiter decisions with
  | nil =>
      rw [FixedWindowRateLimiter.serve, List.append_nil]
      exact ⟨rfl, tracks⟩
  | cons request rest ih =>
      obtain ⟨first, others⟩ := List.pairwise_cons.mp ordered
      have next := check_tracks tracks (since request List.mem_cons_self)
      rw [← @check_keeps_limit limiter request] at next
      have starts : ∀ later ∈ rest, ∀ window ∈ (limiter.check request).2.buckets.get key,
          window.windowStart ≤ later.now :=
        fun later listed => check_starts (first later listed)
          (since later (List.mem_cons_of_mem _ listed))
      obtain ⟨limits, tracked⟩ := ih others next starts
      rw [check_keeps_limit] at limits tracked
      rw [List.append_assoc] at tracked
      exact ⟨limits, tracked⟩

/-- A window that is not replaced fills up to the limit and no further. -/
theorem window_fills {middle rest : List RateDecision} {window : Window}
    (held : limiter.buckets.get key = some window) (room : window.count ≤ limiter.limit)
    (served : limiter.serve requests = middle ++ rest)
    (stays : ∀ decision ∈ middle, decision.ofKey key = true → decision.opens = false) :
    window.count + (admittedTimes key middle).length ≤ limiter.limit := by
  induction middle generalizing limiter requests window with
  | nil => exact room
  | cons decision others ih =>
      cases requests with
      | nil => cases served
      | cons request later =>
          obtain ⟨same, tail⟩ := List.cons.inj served
          have checked := @FixedWindowRateLimiter.check_cases limiter request
          rw [same] at checked
          have rests := fun made listed => stays made (List.mem_cons_of_mem decision listed)
          have limits := checked.same_limit
          have times : (admittedTimes key (decision :: others)).length =
              (admittedTimes key [decision]).length + (admittedTimes key others).length := by
            rw [← List.length_append, ← admitted_append]
            rfl
          by_cases own : key = request.clientKey
          · subst own
            have unopened := stays decision List.mem_cons_self
            revert checked limits tail
            generalize (limiter.check request).2 = next
            intro tail checked limits
            cases checked with
            | opened ended => exact absurd (unopened (beq_self_eq_true _)) Bool.true_eq_false.mp
            | counted bucket found running more =>
                rw [held] at found
                obtain rfl := Option.some.inj found
                have filled := ih (by rw [FixedWindowRateLimiter.bucket_set, if_pos rfl])
                  (show window.count + 1 ≤ limiter.limit from more) tail rests
                have one :
                    (admittedTimes request.clientKey [⟨request, true, false⟩]).length = 1 := by
                  rw [admitted_one, if_pos ⟨rfl, rfl⟩]
                  rfl
                rw [times, one]
                have total : window.count + 1 +
                  (admittedTimes request.clientKey others).length ≤ limiter.limit := filled
                omega
            | refused bucket found running full =>
                have none :
                    (admittedTimes request.clientKey [⟨request, false, false⟩]).length = 0 := by
                  rw [admitted_one, if_neg (fun both => Bool.false_ne_true both.2)]
                  rfl
                rw [times, none, zero_add]
                exact ih held room tail rests
          · have skipped : (admittedTimes key [decision]).length = 0 := by
              have about : decision.request = request := by
                rw [← same]
                rfl
              rw [admitted_one, about, if_neg (fun both => own both.1.symm)]
              rfl
            have still := (checked.other_keys own).trans held
            have filled := ih still (by rw [limits]; exact room) tail rests
            rw [limits] at filled
            rw [times, skipped, zero_add]
            exact filled

/-- The decisions for a key are those of its own requests alone. -/
theorem key_alone {twin : FixedWindowRateLimiter} (limits : twin.limit = limiter.limit)
    (buckets : twin.buckets.get key = limiter.buckets.get key) :
    (limiter.serve requests).filter (RateDecision.ofKey key) =
      twin.serve (requests.filter (fun request => request.clientKey == key)) := by
  induction requests generalizing limiter twin with
  | nil => rfl
  | cons request rest ih =>
      have limitsToo : (limiter.check request).2.limit = limiter.limit := check_keeps_limit
      by_cases own : request.clientKey = key
      · subst own
        obtain ⟨same, bucketsToo⟩ := FixedWindowRateLimiter.check_alike limits buckets
        have twinLimits : (twin.check request).2.limit = twin.limit := check_keeps_limit
        have later := ih (twinLimits.trans (limits.trans limitsToo.symm)) bucketsToo
        have kept : RateDecision.ofKey request.clientKey (limiter.decision request) = true :=
          beq_self_eq_true request.clientKey
        have ownRequests :
            (request :: rest).filter (fun other => other.clientKey == request.clientKey) =
              request :: rest.filter (fun other => other.clientKey == request.clientKey) :=
          List.filter_cons_of_pos (beq_self_eq_true request.clientKey)
        rw [FixedWindowRateLimiter.serve, List.filter_cons_of_pos kept, ownRequests,
          FixedWindowRateLimiter.serve, later, same]
      · have others := (@FixedWindowRateLimiter.check_cases limiter request).other_keys
          (fun equal => own equal.symm)
        have skipped : ¬ RateDecision.ofKey key (limiter.decision request) = true :=
          fun equal => own (eq_of_beq equal)
        have ownRequests : (request :: rest).filter (fun other => other.clientKey == key) =
            rest.filter (fun other => other.clientKey == key) :=
          List.filter_cons_of_neg (fun equal => own (eq_of_beq equal))
        rw [FixedWindowRateLimiter.serve, List.filter_cons_of_neg skipped, ownRequests]
        exact ih (limits.trans limitsToo.symm) (buckets.trans others.symm)

end Tracking

section Promises

variable {limiter : FixedWindowRateLimiter} {requests : List RateRequest}

/-- The decisions up to some request track the windows of every key. -/
theorem fresh_tracks (fresh : limiter.buckets = .empty)
    (monotone : requests.Pairwise (fun first second => first.now ≤ second.now)) (key : String) :
    (limiter.after requests).limit = limiter.limit ∧
      Tracks limiter.limit key (limiter.serve requests)
        ((limiter.after requests).buckets.get key) := by
  have nothing : limiter.buckets.get key = none := by
    rw [fresh]
    rfl
  have tracked := @serve_tracks limiter key [] requests monotone
    (by rw [nothing]; rfl) (fun _ _ window held => by rw [nothing] at held; cases held)
  exact tracked

theorem per_interval (fresh : limiter.buckets = .empty)
    (monotone : requests.Pairwise (fun first second => first.now ≤ second.now)) (key : String)
    (first : ℚ) :
    countBetween (admittedTimes key (limiter.serve requests)) first (first + windowSeconds) ≤
      2 * limiter.limit := by
  have tracked := (fresh_tracks fresh monotone key).2
  revert tracked
  cases (limiter.after requests).buckets.get key with
  | none =>
      intro tracked
      rw [show admittedTimes key (limiter.serve requests) = [] from tracked]
      exact Nat.zero_le _
  | some window =>
      intro tracked
      obtain ⟨closed, inside, times, _, windowed⟩ := tracked
      rw [times]
      exact windowed.any_interval first

theorem no_false_refusal (fresh : limiter.buckets = .empty)
    (monotone : requests.Pairwise (fun first second => first.now ≤ second.now))
    {before rest : List RateDecision} {decision : RateDecision}
    (split : limiter.serve requests = before ++ decision :: rest)
    (refused : decision.admitted = false) :
    limiter.limit ≤ (admittedTimes decision.request.clientKey before).countP
      (fun time => decision.request.now < time + windowSeconds) := by
  obtain ⟨earlier, request, later, listed, served, decided, _⟩ :=
    FixedWindowRateLimiter.serve_splits split
  have orderly : earlier.Pairwise (fun first second => first.now ≤ second.now) :=
    (List.pairwise_append.mp (listed ▸ monotone)).1
  obtain ⟨limits, tracked⟩ := fresh_tracks fresh orderly request.clientKey
  have checked := @FixedWindowRateLimiter.check_cases (limiter.after earlier) request
  rw [← decided] at checked
  revert checked
  generalize ((limiter.after earlier).check request).2 = next
  intro checked
  cases checked with
  | opened ended => cases refused
  | counted bucket held running room => cases refused
  | refused bucket held running full =>
      rw [held] at tracked
      obtain ⟨closed, inside, times, counted, windowed⟩ := tracked
      have running_on : request.now < bucket.windowStart + windowSeconds := by linarith
      have all := windowed.recent_moments running_on
      rw [served, times]
      calc limiter.limit = (limiter.after earlier).limit := limits.symm
        _ ≤ bucket.count := full
        _ = inside.length := counted.symm
        _ ≤ _ := all

theorem per_window {key : String} {before middle rest : List RateDecision} {opening : RateDecision}
    (split : limiter.serve requests = before ++ opening :: (middle ++ rest))
    (own : opening.ofKey key = true) (opens : opening.opens = true)
    (stays : ∀ decision ∈ middle, decision.ofKey key = true → decision.opens = false)
    (limits : ∀ earlier, (limiter.after earlier).limit = limiter.limit) :
    (admittedTimes key (opening :: middle)).length ≤ limiter.limit := by
  obtain ⟨earlier, request, later, _, _, decided, left⟩ :=
    FixedWindowRateLimiter.serve_splits split
  have checked := @FixedWindowRateLimiter.check_cases (limiter.after earlier) request
  rw [← decided] at checked
  revert checked left
  generalize ((limiter.after earlier).check request).2 = next
  intro left checked
  have about : request.clientKey = key := by
    rw [decided] at own
    exact eq_of_beq own
  subst about
  cases checked with
  | counted bucket held running room => cases opens
  | refused bucket held running full => cases opens
  | opened ended =>
      have held : ((limiter.after earlier).setBucket request.clientKey
          ⟨request.now, 1⟩).buckets.get request.clientKey = some ⟨request.now, 1⟩ := by
        rw [FixedWindowRateLimiter.bucket_set, if_pos rfl]
      have filled := window_fills held (limiter.after earlier).positive left.symm stays
      have one : (admittedTimes request.clientKey [⟨request, true, true⟩]).length = 1 := by
        rw [admitted_one, if_pos ⟨rfl, rfl⟩]
        rfl
      have times : (admittedTimes request.clientKey (⟨request, true, true⟩ :: middle)).length =
          1 + (admittedTimes request.clientKey middle).length := by
        rw [← one, ← List.length_append, ← admitted_append]
        rfl
      have total : 1 + (admittedTimes request.clientKey middle).length ≤
          (limiter.after earlier).limit := filled
      rw [times, ← limits earlier]
      exact total

theorem after_keeps_limit (limiter : FixedWindowRateLimiter) (requests : List RateRequest) :
    (limiter.after requests).limit = limiter.limit := by
  induction requests generalizing limiter with
  | nil => rfl
  | cons request rest ih => exact (ih _).trans check_keeps_limit

end Promises

/-- Over every sequence of checks at times that do not decrease, a new limiter keeps the limit
of every key, and decides for a key as if there were no other. -/
theorem rate_limit_is_kept {limitPerMinute : Int} {limiter : FixedWindowRateLimiter}
    {requests : List RateRequest}
    (created : FixedWindowRateLimiter.init limitPerMinute = .ok limiter)
    (monotone : requests.Pairwise (fun first second => first.now ≤ second.now)) (key : String) :
    KeepsLimit limitPerMinute.toNat (limiter.serve requests) key ∧
      (limiter.serve requests).filter (RateDecision.ofKey key) =
        limiter.serve (requests.filter (fun request => request.clientKey == key)) := by
  have start : limiter.buckets = .empty ∧ limiter.limit = limitPerMinute.toNat := by
    unfold FixedWindowRateLimiter.init at created
    split_ifs at created
    · obtain rfl := Except.ok.inj created
      exact ⟨rfl, rfl⟩
  obtain ⟨fresh, limits⟩ := start
  constructor
  · rw [← limits]
    constructor
    · intro before opening middle rest split own opens stays
      exact per_window split own opens stays (after_keeps_limit limiter)
    · exact per_interval fresh monotone key
    · intro before decision rest split own fewer
      by_contra refused
      have many := no_false_refusal fresh monotone split (Bool.eq_false_of_not_eq_true refused)
      rw [eq_of_beq own] at many
      omega
  · exact key_alone rfl rfl

/-! ### Three requests in a minute -/

/-- A limit of two, and three requests of one client around one of another. -/
def burst : List RateRequest :=
  [⟨"client-a", 0⟩, ⟨"client-a", 10⟩, ⟨"client-b", 15⟩, ⟨"client-a", 20⟩, ⟨"client-a", 61⟩]

theorem burst_is_limited :
    ∃ limiter, FixedWindowRateLimiter.init 2 = .ok limiter ∧
      (limiter.serve burst).map RateDecision.admitted = [true, true, true, false, true] ∧
        KeepsLimit 2 (limiter.serve burst) "client-a" := by
  refine ⟨⟨2, .empty, by decide⟩, rfl, ?_, ?_⟩
  · decide +kernel
  · have kept := @rate_limit_is_kept 2 ⟨2, .empty, by decide⟩ burst rfl (by decide +kernel)
    exact (kept "client-a").1

end KarmaSakshi.Guarantees
