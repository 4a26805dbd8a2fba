import SentinelGateway.Health
import SentinelGateway.Metrics

/-!
# The metrics endpoint

`/metrics` is open when no token is configured. Otherwise the request must carry
the token in its `Authorization` header. The two tokens are compared by a fold
over their bytes that does not stop at the first difference; the fold is zero
exactly if no pair of bytes differs, and the test of the lengths before it keeps
`zip` from cutting one of them short.
-/

namespace SentinelGateway

/-- The bytes of a string, as `str::bytes` yields them. -/
def strBytes (s : String) : List UInt8 :=
  s.toByteArray.data.toList

/-- `constant_time_eq`. -/
def constantTimeEq (a b : String) : Bool :=
  if (strBytes a).length ≠ (strBytes b).length then false
  else ((strBytes a).zip (strBytes b)).foldl (fun acc pair => acc ||| (pair.1 ^^^ pair.2)) 0 == 0

/-- `str::strip_prefix`. -/
def stripPrefix (s pre : String) : Option String :=
  (s.toList.dropPrefix? pre.toList).map String.ofList

/-- `HealthAppState`. -/
structure HealthAppState where
  healthMap : HealthMap
  metrics : Option Metrics
  healthToken : Option String

/-- A response of the health server. -/
structure HealthResponse where
  status : UInt16
  headers : List (String × String)
  body : String
  deriving DecidableEq

namespace HealthAppState

/-- The response to a request without the right token. -/
def unauthorized : HealthResponse :=
  { status := 401
    headers := [("content-type", "text/plain; charset=utf-8"), ("www-authenticate", "Bearer")]
    body := "Unauthorized" }

/-- What `metrics_handler` answers a request that has passed the token check. -/
def exposition (state : HealthAppState) (gatherText : Metrics → String) : HealthResponse :=
  match state.metrics with
  | some m =>
    { status := 200
      headers := [("content-type", "text/plain; version=0.0.4; charset=utf-8")]
      body := gatherText m }
  | none =>
    { status := 404
      headers := [("content-type", "text/plain; charset=utf-8")]
      body := "Metrics not enabled" }

/-- `metrics_handler`. The `Authorization` header may be missing, and its value is
`none` if `HeaderValue::to_str` does not accept it. -/
def metricsHandler (state : HealthAppState) (gatherText : Metrics → String)
    (authorization : Option (Option String)) : HealthResponse :=
  match state.healthToken with
  | none => state.exposition gatherText
  | some expected =>
    match (authorization.bind id).bind (stripPrefix · "Bearer ") with
    | some token =>
      if constantTimeEq token expected then state.exposition gatherText else unauthorized
    | none => unauthorized

end HealthAppState

theorem strBytes_inj {a b : String} : strBytes a = strBytes b ↔ a = b := by
  constructor
  · intro h
    have hdata : a.toByteArray.data = b.toByteArray.data := Array.toList_inj.mp h
    exact String.toByteArray_inj.mp (ByteArray.ext hdata)
  · intro h
    rw [h]

/-- A bit set in the accumulator stays set: the fold is zero only if it starts from
zero and no pair of bytes differs. -/
theorem foldl_or_xor_eq_zero_iff {xs ys : List UInt8} (acc : UInt8)
    (hlength : xs.length = ys.length) :
    (xs.zip ys).foldl (fun acc pair => acc ||| (pair.1 ^^^ pair.2)) acc = 0 ↔
      acc = 0 ∧ xs = ys := by
  induction xs generalizing ys acc with
  | nil =>
    cases ys with
    | nil => simp
    | cons y ys => cases hlength
  | cons x xs ih =>
    cases ys with
    | nil => cases hlength
    | cons y ys =>
      have htails : xs.length = ys.length := Nat.succ.inj hlength
      rw [List.zip_cons_cons, List.foldl_cons, ih _ htails, UInt8.or_eq_zero_iff,
        UInt8.xor_eq_zero_iff, List.cons.injEq, and_assoc]

theorem constantTimeEq_iff (a b : String) : constantTimeEq a b = true ↔ a = b := by
  rw [constantTimeEq, ← strBytes_inj]
  split_ifs with hlength
  · constructor
    · intro h
      cases h
    · intro h
      exact absurd (congrArg List.length h) hlength
  · rw [beq_iff_eq, foldl_or_xor_eq_zero_iff 0 (not_not.mp hlength)]
    exact and_iff_right rfl

theorem stripPrefix_eq_some_iff {s pre rest : String} :
    stripPrefix s pre = some rest ↔ s = pre ++ rest := by
  rw [stripPrefix, Option.map_eq_some_iff]
  constructor
  · rintro ⟨tail, htail, rfl⟩
    obtain ⟨head, hsplit, hhead⟩ := List.dropPrefix?_eq_some_iff.mp htail
    rw [beq_iff_eq] at hhead
    rw [← String.toList_inj, String.toList_append, String.toList_ofList, hsplit, hhead]
  · rintro rfl
    refine ⟨rest.toList, ?_, String.ofList_toList⟩
    rw [List.dropPrefix?_eq_some_iff]
    exact ⟨pre.toList, String.toList_append, beq_self_eq_true _⟩

namespace HealthAppState

theorem exposition_status_ne (state : HealthAppState) (gatherText : Metrics → String) :
    (state.exposition gatherText).status ≠ 401 := by
  unfold exposition
  cases state.metrics with
  | none => simp
  | some m => simp

/-- The token that `metrics_handler` takes from the header of a request. -/
theorem provided_eq_some_iff (authorization : Option (Option String)) (token : String) :
    (authorization.bind id).bind (stripPrefix · "Bearer ") = some token ↔
      authorization = some (some ("Bearer " ++ token)) := by
  rw [Option.bind_eq_some_iff]
  constructor
  · rintro ⟨value, hvalue, htoken⟩
    obtain ⟨header, rfl, hheader⟩ := Option.bind_eq_some_iff.mp hvalue
    obtain rfl : header = some value := hheader
    rw [stripPrefix_eq_some_iff.mp htoken]
  · rintro rfl
    exact ⟨"Bearer " ++ token, rfl, stripPrefix_eq_some_iff.mpr rfl⟩

/-- With a token configured, a request gets past the check exactly if its header
carries that token. -/
theorem status_ne_of_healthToken {state : HealthAppState} {expected : String}
    (htoken : state.healthToken = some expected) (gatherText : Metrics → String)
    (authorization : Option (Option String)) :
    (state.metricsHandler gatherText authorization).status ≠ 401 ↔
      authorization = some (some ("Bearer " ++ expected)) := by
  have hrefused : ¬unauthorized.status ≠ 401 := not_not_intro rfl
  rw [metricsHandler, htoken, ← provided_eq_some_iff]
  cases (authorization.bind id).bind (stripPrefix · "Bearer ") with
  | none => simpa using hrefused
  | some token =>
    rw [Option.some.injEq]
    by_cases heq : token = expected
    · have hpass := (constantTimeEq_iff token expected).mpr heq
      simp only [hpass, if_true]
      exact iff_of_true (state.exposition_status_ne gatherText) heq
    · have hfail : ¬constantTimeEq token expected = true := fun h =>
        heq ((constantTimeEq_iff token expected).mp h)
      simp only [if_neg hfail]
      exact iff_of_false hrefused heq

/-- **Token check of `/metrics`.** The comparison that does not stop early decides
equality of strings. So a request gets past the check exactly if no token is
configured or its header is `Bearer ` followed by the token. -/
theorem metrics_authenticated_iff :
    (∀ a b, constantTimeEq a b = true ↔ a = b) ∧
    ∀ (state : HealthAppState) (gatherText : Metrics → String)
      (authorization : Option (Option String)),
      (state.metricsHandler gatherText authorization).status ≠ 401 ↔
        state.healthToken = none ∨
          ∃ token, state.healthToken = some token ∧
            authorization = some (some ("Bearer " ++ token)) := by
  refine ⟨constantTimeEq_iff, ?_⟩
  intro state gatherText authorization
  cases htoken : state.healthToken with
  | none =>
    have hopen : state.metricsHandler gatherText authorization = state.exposition gatherText := by
      rw [metricsHandler, htoken]
    rw [hopen]
    exact iff_of_true (state.exposition_status_ne gatherText) (.inl rfl)
  | some expected =>
    rw [status_ne_of_healthToken htoken]
    simp

end HealthAppState

end SentinelGateway
