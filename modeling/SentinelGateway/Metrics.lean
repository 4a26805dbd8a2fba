import Mathlib.Order.Basic
import SentinelGateway.Config

/-!
# Metrics

The counters of `metrics/mod.rs` that the dispatch loop increments. A counter
vector is a function from label values to counts, a histogram is the list of its
observations.
-/

namespace SentinelGateway

/-- A counter vector whose counter for the given labels is one higher. -/
def inc {K : Type} [DecidableEq K] (counter : K → ℕ) (labels : K) : K → ℕ :=
  Function.update counter labels (counter labels + 1)

theorem lt_inc {K : Type} [DecidableEq K] (counter : K → ℕ) (labels : K) :
    counter < inc counter labels :=
  lt_update_self_iff.mpr (Nat.lt_succ_self _)

/-- `Metrics`. The counters with two labels are those by tool and status. -/
structure Metrics where
  requestsTotal : String × String → ℕ
  requestDurationSeconds : String → List Duration
  errorsTotal : String × String → ℕ
  rateLimitHitsTotal : String → ℕ

namespace Metrics

/-- `Metrics::new`. -/
def new : Metrics :=
  { requestsTotal := fun _ => 0, requestDurationSeconds := fun _ => [],
    errorsTotal := fun _ => 0, rateLimitHitsTotal := fun _ => 0 }

/-- `Metrics::record_request`. -/
def recordRequest (metrics : Metrics) (tool status : String) (durationSecs : Duration) : Metrics :=
  { metrics with
    requestsTotal := inc metrics.requestsTotal (tool, status)
    requestDurationSeconds := Function.update metrics.requestDurationSeconds tool
      (metrics.requestDurationSeconds tool ++ [durationSecs])
    errorsTotal :=
      if status ≠ "success" then inc metrics.errorsTotal (tool, status)
      else metrics.errorsTotal }

/-- `Metrics::record_rate_limit_hit`. -/
def recordRateLimitHit (metrics : Metrics) (tool : String) : Metrics :=
  { metrics with rateLimitHitsTotal := inc metrics.rateLimitHitsTotal tool }

/-- Only requests that did not succeed are errors. -/
theorem errorsTotal_lt_recordRequest_iff (metrics : Metrics) (tool status : String)
    (durationSecs : Duration) :
    metrics.errorsTotal < (metrics.recordRequest tool status durationSecs).errorsTotal ↔
      status ≠ "success" := by
  by_cases h : status = "success"
  · simp [recordRequest, h]
  · simp only [recordRequest, ne_eq, h, not_false_eq_true, if_true, iff_true]
    exact lt_inc _ _

end Metrics

end SentinelGateway
