import Mathlib.Algebra.Order.Ring.Rat
import Mathlib.Tactic.NormNum
import SentinelGateway.Config
import SentinelGateway.Library.FixedWindow

/-!
# Rate limiting

The limiter of `ratelimit.rs` keeps one bucket per client and tool. A bucket is
not refilled gradually: all tokens come back at once, at the first check at
least a minute after the last refill. Seen from one key this is a fixed-window
counter, which is what bounds the number of checks granted in a minute.
-/

namespace SentinelGateway

/-- `TokenBucket`. -/
structure TokenBucket where
  tokens : ℕ
  maxTokens : ℕ
  lastRefill : Instant
  deriving DecidableEq

/-- `TokenBucket::new`. -/
def TokenBucket.new (maxTokens : ℕ) (now : Instant) : TokenBucket :=
  { tokens := maxTokens, maxTokens, lastRefill := now }

/-- The refill that is due after a minute. -/
def TokenBucket.refill (bucket : TokenBucket) (now : Instant) : TokenBucket :=
  if 60 ≤ elapsed bucket.lastRefill now then
    { bucket with tokens := bucket.maxTokens, lastRefill := now }
  else bucket

@[simp] theorem TokenBucket.refill_maxTokens (bucket : TokenBucket) (now : Instant) :
    (bucket.refill now).maxTokens = bucket.maxTokens := by
  unfold refill
  split_ifs <;> rfl

theorem TokenBucket.refill_tokens_le {bucket : TokenBucket} (h : bucket.tokens ≤ bucket.maxTokens)
    (now : Instant) : (bucket.refill now).tokens ≤ bucket.maxTokens := by
  unfold refill
  split_ifs
  · exact le_rfl
  · exact h

/-- No refill is due at the time of the last one. -/
theorem not_due_now (now : Instant) : ¬60 ≤ elapsed now now := by simp [elapsed]

/-- A refill at the same time brings nothing more. -/
theorem TokenBucket.refill_of_refill (bucket : TokenBucket) (tokens : ℕ) (now : Instant) :
    ({ bucket.refill now with tokens } : TokenBucket).refill now =
      { bucket.refill now with tokens } := by
  by_cases hdue : 60 ≤ elapsed bucket.lastRefill now
  · simp [refill, hdue, not_due_now]
  · simp [refill, hdue]

/-- `TokenBucket::try_consume`. The error is the number of seconds to wait, from
the time elapsed before the refill. -/
def TokenBucket.tryConsume (bucket : TokenBucket) (now : Instant) :
    TokenBucket × Except Duration Unit :=
  if 0 < (bucket.refill now).tokens then
    ({ bucket.refill now with tokens := (bucket.refill now).tokens - 1 }, .ok ())
  else (bucket.refill now, .error (max (60 - elapsed bucket.lastRefill now) 1))

/-- `RateLimiter`, with one bucket per client and tool. -/
structure RateLimiter where
  buckets : Table (String × String) TokenBucket
  defaultRpm : ℕ
  perTool : Table String ℕ

/-- One call of `RateLimiter::check`, at the time it is made. -/
structure Check where
  client : String
  tool : String
  time : Instant

namespace RateLimiter

/-- `RateLimiter::new`. -/
def new (config : RateLimitConfig) : RateLimiter :=
  { buckets := ∅, defaultRpm := config.defaultRpm, perTool := config.perTool }

/-- The requests per minute that apply to a tool. -/
def rpm (limiter : RateLimiter) (tool : String) : ℕ :=
  (limiter.perTool.lookup tool).getD limiter.defaultRpm

/-- The bucket a check uses: the key's own, or a full one created for it. -/
def bucketFor (limiter : RateLimiter) (client tool : String) (now : Instant) : TokenBucket :=
  (limiter.buckets.lookup (client, tool)).getD (TokenBucket.new (limiter.rpm tool) now)

/-- `RateLimiter::check`. -/
def check (limiter : RateLimiter) (client tool : String) (now : Instant) :
    RateLimiter × Except Duration Unit :=
  let (bucket, answer) := (limiter.bucketFor client tool now).tryConsume now
  ({ limiter with buckets := limiter.buckets.insert (client, tool) bucket }, answer)

/-- A check as a step of a machine. -/
def checkStep (limiter : RateLimiter) (c : Check) : RateLimiter × Except Duration Unit :=
  limiter.check c.client c.tool c.time

/-- The time of a check on the given key. -/
def timeOnKey (client tool : String) (c : Check) : Option Instant :=
  if c.client = client ∧ c.tool = tool then some c.time else none

/-- The times of the checks on a key that a fresh limiter answers `Ok`. -/
def granted (config : RateLimitConfig) (client tool : String) (checks : List Check) :
    List Instant :=
  (Runs.answered checkStep (fun _ answer => answer.isOk) (new config) checks).filterMap
    (timeOnKey client tool)

/-- A limiter whose bucket for a key is a given window of a counter: the window
opened at the last refill, and used and remaining tokens add up to the limit. -/
structure RefinesWindow (limit : ℕ) (client tool : String) (limiter : RateLimiter)
    (window : Option (FixedWindow.Window Instant)) : Prop where
  rpm_eq : limiter.rpm tool = limit
  bucket : Option.Rel (fun bucket window => bucket.lastRefill = window.opened ∧
      bucket.maxTokens = limit ∧ bucket.tokens + window.used = limit)
    (limiter.buckets.lookup (client, tool)) window

/-- Checks on one key leave the buckets of the others alone. -/
theorem check_lookup_of_ne {limiter : RateLimiter} {client tool : String} {key : String × String}
    (h : key ≠ (client, tool)) (now : Instant) :
    (limiter.check client tool now).1.buckets.lookup key = limiter.buckets.lookup key :=
  AList.lookup_insert_ne h

/-- What a check leaves in its own bucket: one token less than after the refill
that was due if it is answered `Ok`, and otherwise a bucket without tokens. -/
theorem check_lookup_self (limiter : RateLimiter) (client tool : String) (now : Instant) :
    (limiter.check client tool now).2 = .ok () ∧
        0 < ((limiter.bucketFor client tool now).refill now).tokens ∧
        (limiter.check client tool now).1.buckets.lookup (client, tool) =
          some { (limiter.bucketFor client tool now).refill now with
            tokens := ((limiter.bucketFor client tool now).refill now).tokens - 1 } ∨
      (limiter.check client tool now).2 ≠ .ok () ∧
        ((limiter.bucketFor client tool now).refill now).tokens = 0 ∧
        (limiter.check client tool now).1.buckets.lookup (client, tool) =
          some ((limiter.bucketFor client tool now).refill now) := by
  have hlookup : (limiter.check client tool now).1.buckets.lookup (client, tool) =
      some ((limiter.bucketFor client tool now).tryConsume now).1 := AList.lookup_insert _
  have hanswer : (limiter.check client tool now).2 =
      ((limiter.bucketFor client tool now).tryConsume now).2 := rfl
  rw [hlookup, hanswer, TokenBucket.tryConsume]
  split_ifs with hpos
  · exact Or.inl ⟨rfl, hpos, rfl⟩
  · exact Or.inr ⟨by simp, by omega, rfl⟩

/-- After the refill that is due, the bucket is the window the check falls in. -/
theorem RefinesWindow.refill {limit : ℕ} {client tool : String} {limiter : RateLimiter}
    {window : Option (FixedWindow.Window Instant)}
    (h : RefinesWindow limit client tool limiter window) (now : Instant) :
    ((limiter.bucketFor client tool now).refill now).lastRefill =
        (FixedWindow.current 60 now window).opened ∧
      ((limiter.bucketFor client tool now).refill now).maxTokens = limit ∧
      ((limiter.bucketFor client tool now).refill now).tokens +
        (FixedWindow.current 60 now window).used = limit := by
  obtain ⟨hrpm, hbucket⟩ := h
  unfold bucketFor
  generalize limiter.buckets.lookup (client, tool) = bucket at hbucket
  cases hbucket with
  | none => simp [TokenBucket.refill, TokenBucket.new, FixedWindow.current, elapsed, hrpm]
  | @some bucket window hsame =>
    obtain ⟨hopened, hmax, htokens⟩ := hsame
    have hdue : 60 ≤ elapsed bucket.lastRefill now ↔ 60 ≤ now - window.opened := by
      rw [elapsed, hopened, le_max_iff]
      exact or_iff_right (by norm_num)
    simp only [Option.getD_some, TokenBucket.refill, FixedWindow.current, hdue]
    split_ifs
    · exact ⟨rfl, hmax, by simpa using hmax⟩
    · exact ⟨hopened, hmax, htokens⟩

/-- A check on the key moves the bucket as the counter moves, with its verdict. -/
theorem RefinesWindow.check {limit : ℕ} {client tool : String} {limiter : RateLimiter}
    {window : Option (FixedWindow.Window Instant)}
    (h : RefinesWindow limit client tool limiter window) (now : Instant) :
    RefinesWindow limit client tool (limiter.check client tool now).1
        (FixedWindow.step 60 limit window now).1 ∧
      (limiter.check client tool now).2.isOk = (FixedWindow.step 60 limit window now).2 := by
  obtain ⟨hopened, hmax, htokens⟩ := h.refill now
  have hroom : 0 < ((limiter.bucketFor client tool now).refill now).tokens ↔
      (FixedWindow.current 60 now window).used < limit := by omega
  have hlookup : (limiter.check client tool now).1.buckets.lookup (client, tool) =
      some ((limiter.bucketFor client tool now).tryConsume now).1 := AList.lookup_insert _
  refine ⟨⟨h.rpm_eq, ?_⟩, ?_⟩
  · rw [hlookup]
    unfold TokenBucket.tryConsume FixedWindow.step
    split_ifs with hpos hused hused
    · exact .some ⟨hopened, hmax, by simp only; omega⟩
    · exact absurd (hroom.mp hpos) hused
    · exact absurd (hroom.mpr hused) hpos
    · exact .some ⟨hopened, hmax, htokens⟩
  · simp only [RateLimiter.check, TokenBucket.tryConsume, FixedWindow.step, ← hroom]
    split_ifs <;> rfl

/-- A fresh limiter starts with no bucket where the counter starts with no window. -/
theorem refinesWindow_new (config : RateLimitConfig) (client tool : String) :
    RefinesWindow ((new config).rpm tool) client tool (new config) none := ⟨rfl, .none⟩

/-- A check on the key is followed by the counter with the same verdict. -/
theorem RefinesWindow.selected {limit : ℕ} {client tool : String} {limiter : RateLimiter}
    {window : Option (FixedWindow.Window Instant)} {c : Check} {now : Instant}
    (h : RefinesWindow limit client tool limiter window)
    (hkey : timeOnKey client tool c = some now) :
    RefinesWindow limit client tool (limiter.checkStep c).1
        (FixedWindow.step 60 limit window now).1 ∧
      (limiter.checkStep c).2.isOk = (FixedWindow.step 60 limit window now).2 := by
  obtain ⟨⟨rfl, rfl⟩, rfl⟩ : (c.client = client ∧ c.tool = tool) ∧ c.time = now := by
    simpa [timeOnKey] using hkey
  exact h.check c.time

/-- A check on another key does not move the window. -/
theorem RefinesWindow.skipped {limit : ℕ} {client tool : String} {limiter : RateLimiter}
    {window : Option (FixedWindow.Window Instant)} {c : Check}
    (h : RefinesWindow limit client tool limiter window)
    (hkey : timeOnKey client tool c = none) :
    RefinesWindow limit client tool (limiter.checkStep c).1 window := by
  have hne : (client, tool) ≠ (c.client, c.tool) := by
    rintro heq
    obtain ⟨rfl, rfl⟩ := Prod.mk.inj heq
    simp [timeOnKey] at hkey
  exact ⟨h.rpm_eq, by rw [checkStep, check_lookup_of_ne hne]; exact h.bucket⟩

/-- **Limiter refinement.** Whatever other keys are checked in between, the
checks granted to a key are those a fixed-window counter of its own admits. -/
theorem granted_eq_admitted (config : RateLimitConfig) (client tool : String)
    (checks : List Check) :
    granted config client tool checks =
      FixedWindow.admitted 60 ((new config).rpm tool)
        (checks.filterMap (timeOnKey client tool)) :=
  (Runs.simulation checkStep (fun _ _ _ _ h hkey => h.selected hkey)
    (fun _ _ _ h hkey => h.skipped hkey) (refinesWindow_new config client tool) checks).2

/-- Whether the checks on a key are answered `Ok`, one by one, when a fresh
limiter answers an interleaving of checks on any keys. -/
def answers (config : RateLimitConfig) (client tool : String) (checks : List Check) : List Bool :=
  ((checks.zip (Runs.outputs checkStep (new config) checks)).filter fun pair =>
    (timeOnKey client tool pair.1).isSome).map fun pair => pair.2.isOk

/-- **Limiter as a counter per key.** The answers given to a key, refusals
included, are those of a fixed-window counter that sees the checks on this key
alone, with the limit the configuration sets for the tool. -/
theorem answers_eq_verdicts (config : RateLimitConfig) (client tool : String)
    (checks : List Check) :
    answers config client tool checks =
      FixedWindow.verdicts 60 ((config.perTool.lookup tool).getD config.defaultRpm)
        (checks.filterMap (timeOnKey client tool)) :=
  Runs.simulation_outputs checkStep (fun _ _ _ _ h hkey => h.selected hkey)
    (fun _ _ _ h hkey => h.skipped hkey) (refinesWindow_new config client tool) checks

/-- **Limit per minute.** At nondecreasing times, and whatever other keys are
checked, no half-open minute contains more than `2 * rpm - 1` granted checks of
one client on one tool. -/
theorem granted_per_minute_le (config : RateLimitConfig) (client tool : String)
    (checks : List Check) (hsorted : (checks.map Check.time).Pairwise (· ≤ ·)) (a : Instant) :
    ((granted config client tool checks).filter fun t => a ≤ t ∧ t < a + 60).length ≤
      2 * (new config).rpm tool - 1 := by
  rw [granted_eq_admitted]
  apply FixedWindow.admitted_interval_le
  have hsub : (checks.filterMap (timeOnKey client tool)).Sublist (checks.map Check.time) := by
    rw [← List.filterMap_eq_map]
    clear hsorted
    induction checks with
    | nil => exact .slnil
    | cons c cs ih =>
      by_cases h : c.client = client ∧ c.tool = tool
      · simpa [timeOnKey, h] using ih
      · simpa [timeOnKey, h] using ih.cons _
  exact hsorted.sublist hsub

/-- The bound applied to a minute in which a refill falls. -/
theorem granted_per_minute_le_straddling :
    ((granted { defaultRpm := 2 } "agent" "query"
      [⟨"agent", "query", 0⟩, ⟨"agent", "query", 59⟩, ⟨"agent", "query", 60⟩,
        ⟨"agent", "query", 60⟩]).filter fun t => 59 ≤ t ∧ t < 59 + 60).length ≤ 3 :=
  granted_per_minute_le { defaultRpm := 2 } "agent" "query" _ (by decide +kernel) 59

/-- Two requests per minute do not keep a third out of a minute: one late check
of the first window and two of the next one fit into it. -/
theorem granted_per_minute_exceeds_rpm :
    let config : RateLimitConfig := { defaultRpm := 2 }
    let checks : List Check := [⟨"agent", "query", 0⟩, ⟨"agent", "query", 59⟩,
      ⟨"agent", "query", 60⟩, ⟨"agent", "query", 60⟩]
    (checks.map Check.time).Pairwise (· ≤ ·) ∧
      ¬((granted config "agent" "query" checks).filter fun t => 59 ≤ t ∧ t < 59 + 60).length ≤
        (new config).rpm "query" := by
  decide +kernel

end RateLimiter

end SentinelGateway
