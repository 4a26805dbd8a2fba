import Mathlib.Tactic.Linarith
import SentinelGateway.Gateway.Steps

/-!
# The hint to come back later

A refused check names the seconds until the next refill, at least one. Refused
checks do not move the last refill, so the hint stays true however many of them
follow: who comes back in time and finds that nothing was granted in between is
let through. The client is told the hint rounded up to whole seconds.
-/

namespace SentinelGateway

namespace RateLimiter

variable {limiter : RateLimiter} {client tool : String} {now : Instant} {r : Duration}

/-- No check of the list on the key is answered `Ok`. -/
def NoneGranted (limiter : RateLimiter) (client tool : String) (checks : List Check) : Prop :=
  ∀ before x rest, checks = before ++ x :: rest → x.client = client → x.tool = tool →
    ((Runs.after checkStep limiter before).checkStep x).2 ≠ .ok ()

/-- The limits do not change. -/
theorem rpm_after (limiter : RateLimiter) (checks : List Check) (tool : String) :
    (Runs.after checkStep limiter checks).rpm tool = limiter.rpm tool := by
  induction checks generalizing limiter with
  | nil => rfl
  | cons x checks ih => exact ih (limiter.checkStep x).1

/-- Checking changes the tokens of a bucket, and the time of its refill if one was due. -/
theorem tryConsume_fst (bucket : TokenBucket) (now : Instant) :
    (bucket.tryConsume now).1.maxTokens = bucket.maxTokens ∧
      ((bucket.tryConsume now).1.lastRefill = bucket.lastRefill ∨
        (bucket.tryConsume now).1.lastRefill = now) := by
  have hrefill : (bucket.refill now).lastRefill = bucket.lastRefill ∨
      (bucket.refill now).lastRefill = now := by
    unfold TokenBucket.refill
    split_ifs
    · exact .inr rfl
    · exact .inl rfl
  unfold TokenBucket.tryConsume
  split_ifs
  · exact ⟨bucket.refill_maxTokens now, hrefill⟩
  · exact ⟨bucket.refill_maxTokens now, hrefill⟩

/-- A bucket that a fresh limiter has come to keep holds up to the limit of its tool and
was filled at the time of some check. -/
theorem bucket_of_lookup {config : RateLimitConfig} {checks : List Check} {bucket : TokenBucket}
    (h : (Runs.after checkStep (new config) checks).buckets.lookup (client, tool) = some bucket) :
    bucket.maxTokens = (new config).rpm tool ∧ ∃ x ∈ checks, bucket.lastRefill = x.time := by
  induction checks using List.reverseRecOn generalizing bucket with
  | nil => cases h
  | append_singleton checks x ih =>
    rw [Runs.after_concat] at h
    by_cases hkey : (client, tool) = (x.client, x.tool)
    · obtain ⟨rfl, rfl⟩ := Prod.mk.inj hkey
      have hinsert : ((Runs.after checkStep (new config) checks).checkStep x).1.buckets.lookup
          (x.client, x.tool) = some (((Runs.after checkStep (new config) checks).bucketFor
            x.client x.tool x.time).tryConsume x.time).1 := AList.lookup_insert _
      rw [hinsert] at h
      obtain rfl := Option.some.inj h
      obtain ⟨hmax, hrefill⟩ := tryConsume_fst
        ((Runs.after checkStep (new config) checks).bucketFor x.client x.tool x.time) x.time
      rw [hmax]
      cases hold : (Runs.after checkStep (new config) checks).buckets.lookup
          (x.client, x.tool) with
      | none =>
        rw [bucketFor, hold] at hrefill ⊢
        exact ⟨rpm_after _ _ _, x, by simp, hrefill.elim id id⟩
      | some bucket =>
        obtain ⟨hlimit, y, hy, htime⟩ := ih hold
        rw [bucketFor, hold] at hrefill ⊢
        refine ⟨hlimit, ?_⟩
        rcases hrefill with hkept | hnow
        · exact ⟨y, List.mem_append_left _ hy, hkept.trans htime⟩
        · exact ⟨x, by simp, hnow⟩
    · rw [checkStep, check_lookup_of_ne hkey] at h
      obtain ⟨hlimit, y, hy, htime⟩ := ih h
      exact ⟨hlimit, y, List.mem_append_left _ hy, htime⟩

/-- What a refusal says: the hint comes from a bucket that is empty and not yet due,
and the bucket stays as it is. -/
theorem refused_spec (hmax : 0 < (limiter.bucketFor client tool now).maxTokens)
    (hrefused : (limiter.check client tool now).2 = .error r) :
    (limiter.bucketFor client tool now).tokens = 0 ∧
      r = max (60 - elapsed (limiter.bucketFor client tool now).lastRefill now) 1 ∧
      (limiter.check client tool now).1.buckets.lookup (client, tool) =
        some (limiter.bucketFor client tool now) := by
  have hlookup : (limiter.check client tool now).1.buckets.lookup (client, tool) =
      some ((limiter.bucketFor client tool now).tryConsume now).1 := AList.lookup_insert _
  have hanswer : ((limiter.bucketFor client tool now).tryConsume now).2 = .error r := hrefused
  rw [hlookup]
  generalize limiter.bucketFor client tool now = bucket at hmax hanswer ⊢
  unfold TokenBucket.tryConsume at hanswer ⊢
  have hempty : ¬0 < (bucket.refill now).tokens := by
    intro hpos
    rw [if_pos hpos] at hanswer
    cases hanswer
  -- a refill that was due would have brought tokens
  have hsame : bucket.refill now = bucket := by
    by_cases hdue : 60 ≤ elapsed bucket.lastRefill now
    · exact absurd (by rw [TokenBucket.refill, if_pos hdue]; exact hmax) hempty
    · rw [TokenBucket.refill, if_neg hdue]
  rw [if_neg hempty] at hanswer ⊢
  rw [hsame] at hempty ⊢
  exact ⟨Nat.eq_zero_of_not_pos hempty, (Except.error.inj hanswer).symm, rfl⟩

/-- The hint is between a second and a minute. -/
theorem hint_bounds (hrefused : (limiter.check client tool now).2 = .error r) :
    1 ≤ r ∧ r ≤ 60 := by
  have hanswer : ((limiter.bucketFor client tool now).tryConsume now).2 = .error r := hrefused
  have helapsed : 0 ≤ elapsed (limiter.bucketFor client tool now).lastRefill now :=
    le_max_left _ _
  unfold TokenBucket.tryConsume at hanswer
  split_ifs at hanswer
  obtain rfl := Except.error.inj hanswer
  refine ⟨le_max_right _ _, max_le ?_ (by norm_num)⟩
  linarith

/-- An empty bucket stays as it is as long as no check on its key is granted. -/
theorem lookup_after_of_noneGranted {bucket : TokenBucket} (hmax : 0 < bucket.maxTokens)
    (hbucket : limiter.buckets.lookup (client, tool) = some bucket) {checks : List Check}
    (hnone : NoneGranted limiter client tool checks) :
    (Runs.after checkStep limiter checks).buckets.lookup (client, tool) = some bucket := by
  induction checks using List.reverseRecOn with
  | nil => exact hbucket
  | append_singleton checks x ih =>
    have hbefore : NoneGranted limiter client tool checks := by
      intro before y rest hsplit
      exact hnone before y (rest ++ [x]) (by simp [hsplit])
    have hlast := hnone checks x [] rfl
    have hkept := ih hbefore
    rw [Runs.after_concat]
    generalize Runs.after checkStep limiter checks = reached at hkept hlast
    by_cases hkey : (client, tool) = (x.client, x.tool)
    · obtain ⟨rfl, rfl⟩ := Prod.mk.inj hkey
      have hown : reached.bucketFor x.client x.tool x.time = bucket := by rw [bucketFor, hkept]; rfl
      cases hanswer : (reached.checkStep x).2 with
      | ok => exact absurd hanswer (hlast rfl rfl)
      | error wait =>
        have hrefused := refused_spec (by rwa [hown]) hanswer
        rw [hown] at hrefused
        exact hrefused.2.2
    · rw [checkStep, check_lookup_of_ne hkey]
      exact hkept

/-- A check that finds a refill due is granted. -/
theorem granted_of_due {bucket : TokenBucket} (hmax : 0 < bucket.maxTokens)
    (hbucket : limiter.buckets.lookup (client, tool) = some bucket)
    (hdue : 60 ≤ elapsed bucket.lastRefill now) : (limiter.check client tool now).2 = .ok () := by
  have hown : limiter.bucketFor client tool now = bucket := by
    rw [bucketFor, hbucket]
    rfl
  have htokens : 0 < (bucket.refill now).tokens := by
    rw [TokenBucket.refill, if_pos hdue]
    exact hmax
  change ((limiter.bucketFor client tool now).tryConsume now).2 = .ok ()
  rw [hown, TokenBucket.tryConsume, if_pos htokens]

/-- The bucket that a check uses was last filled at or before its time. -/
theorem bucketFor_after (config : RateLimitConfig) (client tool : String) {checks : List Check}
    (hearlier : ∀ x ∈ checks, x.time ≤ now) :
    ((Runs.after checkStep (new config) checks).bucketFor client tool now).maxTokens =
        (new config).rpm tool ∧
      ((Runs.after checkStep (new config) checks).bucketFor client tool now).lastRefill ≤ now := by
  cases hold : (Runs.after checkStep (new config) checks).buckets.lookup (client, tool) with
  | none =>
    rw [bucketFor, hold]
    exact ⟨rpm_after _ _ _, le_rfl⟩
  | some bucket =>
    obtain ⟨hlimit, x, hx, htime⟩ := bucket_of_lookup hold
    rw [bucketFor, hold]
    refine ⟨hlimit, ?_⟩
    change bucket.lastRefill ≤ now
    rw [htime]
    exact hearlier x hx

/-- Whoever comes back after the hint, with nothing granted in between, is let through. -/
theorem granted_after_hint {config : RateLimitConfig} {before between : List Check} {c d : Check}
    (hearlier : ∀ x ∈ before, x.time ≤ c.time) (hrpm : 0 < (new config).rpm c.tool)
    (hrefused : ((Runs.after checkStep (new config) before).checkStep c).2 = .error r)
    (hclient : d.client = c.client) (htool : d.tool = c.tool) (hlater : c.time + r ≤ d.time)
    (hnone : NoneGranted (Runs.after checkStep (new config) (before ++ [c])) c.client c.tool
      between) :
    ((Runs.after checkStep (new config) (before ++ c :: between)).checkStep d).2 = .ok () := by
  obtain ⟨hlimit, hfilled⟩ := bucketFor_after config c.client c.tool hearlier
  have hmax : 0 < ((Runs.after checkStep (new config) before).bucketFor c.client c.tool
      c.time).maxTokens := by rwa [hlimit]
  obtain ⟨-, hhint, hkept⟩ := refused_spec hmax hrefused
  generalize (Runs.after checkStep (new config) before).bucketFor c.client c.tool c.time =
    bucket at hfilled hmax hhint hkept
  have hstart : (Runs.after checkStep (new config) (before ++ [c])).buckets.lookup
      (c.client, c.tool) = some bucket := by
    rw [Runs.after_concat]
    exact hkept
  have hreached := lookup_after_of_noneGranted hmax hstart hnone
  rw [← Runs.after_append, List.append_assoc, List.singleton_append] at hreached
  have hwait : 60 - (c.time - bucket.lastRefill) ≤ r := by
    have helapsed : elapsed bucket.lastRefill c.time = c.time - bucket.lastRefill :=
      max_eq_right (by linarith)
    rw [hhint, helapsed]
    exact le_max_left _ _
  rw [checkStep, hclient, htool]
  apply granted_of_due hmax hreached
  apply le_max_of_le_right
  linarith

end RateLimiter

/-- Rounding the hint up to whole seconds keeps it between a second and a minute. -/
theorem ceil_hint {r : Duration} (hlow : 1 ≤ r) (hhigh : r ≤ 60) :
    1 ≤ (UInt64.ofNat (Rat.ceil r).toNat).toNat ∧ (UInt64.ofNat (Rat.ceil r).toNat).toNat ≤ 60 ∧
      r ≤ (UInt64.ofNat (Rat.ceil r).toNat).toNat := by
  have hle : Rat.ceil r ≤ 60 := Rat.ceil_le_iff.mpr (by exact_mod_cast hhigh)
  have hceil : r ≤ (Rat.ceil r : ℤ) := Rat.le_ceil
  have hone : 1 ≤ Rat.ceil r := by
    have hcast : (1 : ℚ) ≤ (Rat.ceil r : ℤ) := hlow.trans hceil
    exact_mod_cast hcast
  have hnat : (UInt64.ofNat (Rat.ceil r).toNat).toNat = (Rat.ceil r).toNat :=
    UInt64.toNat_ofNat_of_lt' (by rw [UInt64.size]; omega)
  rw [hnat]
  refine ⟨by omega, by omega, ?_⟩
  have hcast : ((Rat.ceil r).toNat : ℤ) = Rat.ceil r := Int.toNat_of_nonneg (by omega)
  rw [← hcast] at hceil
  exact_mod_cast hceil

namespace Gateway

variable {gw : Gateway} {st : DispatchState} {line : InboundLine} {id : JsonRpcId}
  {name : String} {params : Option Json}

/-- The answer to a call that the limiter refuses. -/
theorem responses_of_rate_limited {r : Duration} (hcall : IsCall gw st line id name params)
    (henabled : gw.killSwitchGate st.hotConfig.killSwitch name = none)
    (hrefused :
      (st.hotConfig.rateLimiter.check gw.identity.subject name line.checkedAt).2 = .error r) :
    responses (gw.step st (.line line)).2 =
      [.failureWithData id rateLimitErrorCode ("Rate limit exceeded for tool: " ++ name)
        (.object [("retryAfter", .number (.posInt (UInt64.ofNat (Rat.ceil r).toNat)))])] := by
  have hgate : gw.rateLimitGate st name line.checkedAt = (gw.afterCheck st line name,
      some { status := .rateLimited, code := rateLimitErrorCode
             message := "Rate limit exceeded for tool: " ++ name
             data := some (.object [("retryAfter",
               .number (.posInt (UInt64.ofNat (Rat.ceil r).toNat)))])
             backendName := gw.auditedBackend name }) := by
    refine Prod.ext (rateLimitGate_state gw st name _) ?_
    simp only [rateLimitGate, hrefused]
  rw [step_of_isCall hcall]
  simp only [toolsCall, hcall.named, passGates, henabled, hgate, responses_reject]
  rfl

end Gateway

/-- **Honest hints.** A check that is refused on a key with a positive limit names a
time between a second and a minute. The client is told a whole number of seconds in
that range that is no shorter. And whoever comes back after the named time is let
through, if no check on the key was granted in between. -/
theorem retryAfter_honest (config : RateLimitConfig) (before between : List Check) (c d : Check)
    {r : Duration}
    (hsorted : ((before ++ c :: between ++ [d]).map Check.time).Pairwise (· ≤ ·))
    (hrpm : 0 < (RateLimiter.new config).rpm c.tool)
    (hrefused :
      ((Runs.after RateLimiter.checkStep (.new config) before).checkStep c).2 = .error r) :
    (1 ≤ r ∧ r ≤ 60) ∧
    (∀ gw st line id params,
      st.hotConfig.rateLimiter = Runs.after RateLimiter.checkStep (.new config) before →
      gw.identity.subject = c.client → line.checkedAt = c.time →
      Gateway.IsCall gw st line id c.tool params →
      gw.killSwitchGate st.hotConfig.killSwitch c.tool = none →
        ∃ n : UInt64, responses (gw.step st (.line line)).2 =
            [.failureWithData id rateLimitErrorCode ("Rate limit exceeded for tool: " ++ c.tool)
              (.object [("retryAfter", .number (.posInt n))])] ∧
          1 ≤ n.toNat ∧ n.toNat ≤ 60 ∧ r ≤ n.toNat) ∧
    (d.client = c.client → d.tool = c.tool → c.time + r ≤ d.time →
      RateLimiter.NoneGranted (Runs.after RateLimiter.checkStep (.new config) (before ++ [c]))
        c.client c.tool between →
      ((Runs.after RateLimiter.checkStep (.new config) (before ++ c :: between)).checkStep d).2 =
        .ok ()) := by
  have hearlier : ∀ x ∈ before, x.time ≤ c.time := by
    intro x hx
    rw [List.append_assoc, List.map_append, List.pairwise_append] at hsorted
    exact hsorted.2.2 x.time (List.mem_map_of_mem hx) c.time (by simp)
  obtain ⟨hlow, hhigh⟩ := RateLimiter.hint_bounds hrefused
  refine ⟨⟨hlow, hhigh⟩, ?_, ?_⟩
  · intro gw st line id params hlimiter hsubject htime hcall henabled
    have hgate : (st.hotConfig.rateLimiter.check gw.identity.subject c.tool line.checkedAt).2 =
        .error r := by
      rw [hlimiter, hsubject, htime]
      exact hrefused
    exact ⟨_, Gateway.responses_of_rate_limited hcall henabled hgate, ceil_hint hlow hhigh⟩
  · intro hclient htool hlater hnone
    exact RateLimiter.granted_after_hint hearlier hrpm hrefused hclient htool hlater hnone

/-- An operational session of an agent whose limiter has seen these checks. -/
def checkedGateway : Gateway :=
  { Gateway.bare (.ofValues [queryMessage]) with
    caller := some { subject := "agent", role := "admin" } }

def checkedState (rateLimiter : RateLimiter) : DispatchState where
  state := .operational
  hotConfig := { killSwitch := {}, rateLimiter }
  idRemapper := .new
  circuitBreakers := ∅

/-- With one request per minute, the second check is told to wait for 50 seconds, and so is
the client whose call it is. A third check in between is refused too, and a fourth one at
the named time is granted. -/
theorem retryAfter_honest_once_a_minute :
    let limiter := Runs.after RateLimiter.checkStep (.new { defaultRpm := 1 })
    ((limiter [⟨"agent", "query", 0⟩]).checkStep ⟨"agent", "query", 10⟩).2 = .error 50 ∧
      (1 ≤ (50 : Duration) ∧ (50 : Duration) ≤ 60) ∧
      (∃ n : UInt64, responses (checkedGateway.step
            (checkedState (limiter [⟨"agent", "query", 0⟩]))
            (.line { InboundLine.message queryMessage with checkedAt := 10 })).2 =
          [.failureWithData (.number 7) rateLimitErrorCode
            ("Rate limit exceeded for tool: " ++ "query")
            (.object [("retryAfter", .number (.posInt n))])] ∧
        1 ≤ n.toNat ∧ n.toNat ≤ 60 ∧ (50 : Duration) ≤ n.toNat) ∧
      ((limiter [⟨"agent", "query", 0⟩, ⟨"agent", "query", 10⟩,
        ⟨"agent", "query", 30⟩]).checkStep ⟨"agent", "query", 60⟩).2 = .ok () := by
  intro limiter
  have hrefused : ((limiter [⟨"agent", "query", 0⟩]).checkStep ⟨"agent", "query", 10⟩).2 =
      .error 50 := by decide +kernel
  have hnone : RateLimiter.NoneGranted
      (limiter [⟨"agent", "query", 0⟩, ⟨"agent", "query", 10⟩]) "agent" "query"
      [⟨"agent", "query", 30⟩] := by
    intro before x rest hsplit _ _
    cases before with
    | nil =>
      obtain ⟨rfl, rfl⟩ := List.cons.inj hsplit
      decide +kernel
    | cons y before => simp at hsplit
  have honest := retryAfter_honest { defaultRpm := 1 } [⟨"agent", "query", 0⟩]
    [⟨"agent", "query", 30⟩] ⟨"agent", "query", 10⟩ ⟨"agent", "query", 60⟩ (by decide +kernel)
    (by decide) hrefused
  have hcall : checkedGateway.IsCall (checkedState (limiter [⟨"agent", "query", 0⟩]))
      { InboundLine.message queryMessage with checkedAt := 10 } (.number 7) "query"
      (some (.object [("name", .string "query")])) := ⟨⟨"2.0", rfl⟩, rfl, rfl⟩
  exact ⟨hrefused, honest.1, honest.2.1 _ _ _ _ _ rfl rfl rfl hcall rfl,
    honest.2.2 rfl rfl (by norm_num) hnone⟩

end SentinelGateway
