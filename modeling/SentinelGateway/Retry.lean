import SentinelGateway.Http

/-!
# Retries of HTTP requests

`HttpBackend::send` posts a request again when an attempt fails in a way that
`is_retryable` takes for transient. What becomes of an attempt is up to the
transport: there may be no response, a response whose body cannot be read to its
end, or a complete one. A response that breaks off after a success status counts
as transient, so the backend may see a call again that it had accepted.
-/

namespace SentinelGateway

/-- `BackendError::is_retryable`. -/
def BackendError.isRetryable : BackendError → Bool
  | .request e => e.isTimeout || e.isConnect
  | .httpStatus code _ => 500 ≤ code
  | .stream _ => true
  | .noDataInSse => false
  | .invalidResponse _ => false
  | .processExited _ => false
  | .stdinClosed => false

/-- `retry_with_backoff`, with the retries that are left. The operation carries a
state from one attempt to the next; the delays between them are not modelled. -/
def retryWithBackoff {σ α : Type} (operation : σ → σ × Except BackendError α) :
    ℕ → σ → σ × Except BackendError α
  | maxRetries, s =>
    match operation s with
    | (s, .ok val) => (s, .ok val)
    | (s, .error e) =>
      match maxRetries with
      | 0 => (s, .error e)
      | retries + 1 =>
        if e.isRetryable then retryWithBackoff operation retries s else (s, .error e)

/-- The outcome of an attempt is a failure that is worth another one. -/
def BackendError.isTransient {α : Type} : Except BackendError α → Bool
  | .ok _ => false
  | .error e => e.isRetryable

/-- Where the attempts have outcomes one after the other, the loop runs until an
outcome is no transient failure or no retry is left, and returns the last outcome. -/
theorem retryWithBackoff_of_stream {σ α : Type} {operation : σ → σ × Except BackendError α}
    {states : ℕ → σ} {outcomes : ℕ → Except BackendError α}
    (hoperation : ∀ n, operation (states n) = (states (n + 1), outcomes n)) (retries n : ℕ) :
    ∃ k ≤ retries,
      retryWithBackoff operation retries (states n) =
        (states (n + k + 1), outcomes (n + k)) ∧
      (∀ i < k, BackendError.isTransient (outcomes (n + i)) = true) ∧
      (k < retries → BackendError.isTransient (outcomes (n + k)) = false) := by
  induction retries generalizing n with
  | zero =>
    refine ⟨0, le_rfl, ?_, by simp, by simp⟩
    rw [retryWithBackoff, hoperation]
    cases hresult : outcomes n with
    | ok val => simp
    | error e => simp
  | succ retries ih =>
    rw [retryWithBackoff, hoperation]
    cases hresult : outcomes n with
    | ok val =>
      refine ⟨0, Nat.zero_le _, by simp [hresult], by simp, ?_⟩
      intro _
      simp [BackendError.isTransient, hresult]
    | error e =>
      have htransient : BackendError.isTransient (outcomes n) = e.isRetryable := by
        simp only [BackendError.isTransient, hresult]
      cases hretry : e.isRetryable with
      | false =>
        refine ⟨0, Nat.zero_le _, by simp [hresult, hretry], by simp, ?_⟩
        intro _
        rwa [Nat.add_zero, htransient]
      | true =>
        obtain ⟨k, hk, hlast, hearlier, hfinal⟩ := ih (n + 1)
        have hshift (i : ℕ) : n + (i + 1) = n + 1 + i := by omega
        refine ⟨k + 1, by omega, ?_, ?_, ?_⟩
        · rw [hshift k]
          simp only [hretry, if_true, hlast]
        · intro i hi
          cases i with
          | zero => rwa [Nat.add_zero, htransient]
          | succ i =>
            rw [hshift i]
            exact hearlier i (by omega)
        · intro hlt
          rw [hshift k]
          exact hfinal (by omega)

/-- A `POST` as `HttpBackend::send` builds it. -/
structure HttpRequest where
  url : String
  headers : List (String × String)
  timeout : Duration
  body : String

/-- What becomes of a `POST`: no response, or a status and headers, after which the
body is read to its end or the reading fails. -/
inductive Attempt where
  | failed (e : RequestError)
  | answered (status : UInt16) (contentType : Option String) (body : Except RequestError String)

namespace Attempt

/-- The attempt received a success status. -/
def Accepted : Attempt → Prop
  | .failed _ => False
  | .answered status _ _ => 200 ≤ status ∧ status < 300

instance : DecidablePred Accepted
  | .failed _ => inferInstanceAs (Decidable False)
  | .answered status _ _ => inferInstanceAs (Decidable (200 ≤ status ∧ status < 300))

/-- Reading the body of the response failed. -/
def BrokeOff : Attempt → Prop
  | .failed _ => False
  | .answered _ _ body => ∃ e, body = .error e

/-- The result of an attempt. The body of an unsuccessful response that cannot be
read counts as empty. -/
def result : Attempt → Except BackendError String
  | .failed e => .error (.request e)
  | .answered status contentType body =>
    if ¬(200 ≤ status ∧ status < 300) then
      .error (.httpStatus status (match body with | .ok text => text | .error _ => ""))
    else
      match body with
      | .error e => .error (.stream e)
      | .ok text => HttpBackend.readResponse { status, contentType, body := text }

/-- The attempt is taken for a transient failure. -/
def isTransient (attempt : Attempt) : Bool :=
  match attempt.result with
  | .ok _ => false
  | .error e => e.isRetryable

end Attempt

namespace HttpBackend

/-- The request posted for a body. -/
def request (backend : HttpBackend) (body : String) : HttpRequest :=
  { url := backend.url
    headers := [("Content-Type", "application/json"),
      ("Accept", "application/json, text/event-stream")] ++
      (backend.authSecret.map fun secret => ("X-Sentinel-Auth", secret)).toList
    timeout := backend.timeout
    body }

/-- One attempt, after the given posts. The transport decides what becomes of the
first post, the second and so on. -/
def post (backend : HttpBackend) (body : String) (transport : ℕ → Attempt)
    (posts : List (HttpRequest × Attempt)) :
    List (HttpRequest × Attempt) × Except BackendError String :=
  (posts ++ [(backend.request body, transport posts.length)], (transport posts.length).result)

/-- `HttpBackend::send`: the posts it makes and its result. -/
def send (backend : HttpBackend) (body : String) (transport : ℕ → Attempt) :
    List (HttpRequest × Attempt) × Except BackendError String :=
  retryWithBackoff (backend.post body transport) backend.maxRetries []

/-- The first `n` posts for a body. -/
def firstPosts (backend : HttpBackend) (body : String) (transport : ℕ → Attempt) (n : ℕ) :
    List (HttpRequest × Attempt) :=
  (List.range n).map fun i => (backend.request body, transport i)

end HttpBackend

theorem Attempt.isTransient_eq (attempt : Attempt) :
    attempt.isTransient = BackendError.isTransient attempt.result := by
  unfold isTransient
  cases attempt.result with
  | ok text => rfl
  | error e => rfl

/-- An accepted attempt is taken for a transient failure exactly if its body broke off. -/
theorem Attempt.isTransient_iff_of_accepted {attempt : Attempt} (h : attempt.Accepted) :
    attempt.isTransient = true ↔ attempt.BrokeOff := by
  cases attempt with
  | failed e => exact absurd h id
  | answered status contentType body =>
    have hstatus : ¬¬(200 ≤ status ∧ status < 300) := not_not_intro h
    cases body with
    | error e => simp [isTransient, result, BrokeOff, BackendError.isRetryable, h.1, h.2]
    | ok text =>
      simp only [isTransient, result, BrokeOff, HttpBackend.readResponse, if_neg hstatus]
      split_ifs
      · cases parseSseData text <;> simp [BackendError.isRetryable]
      · simp

namespace HttpBackend

variable (backend : HttpBackend) (body : String) (transport : ℕ → Attempt)

theorem length_firstPosts (n : ℕ) : (firstPosts backend body transport n).length = n := by
  simp [firstPosts]

/-- One more attempt. -/
theorem post_firstPosts (n : ℕ) :
    backend.post body transport (firstPosts backend body transport n) =
      (firstPosts backend body transport (n + 1), (transport n).result) := by
  rw [post, length_firstPosts, firstPosts, firstPosts, List.range_succ, List.map_append]
  rfl

/-- The loop posts until an attempt is no transient failure or no retry is left,
and returns what became of the last post. -/
theorem retryWithBackoff_post (retries n : ℕ) :
    ∃ k ≤ retries,
      retryWithBackoff (backend.post body transport) retries
          (firstPosts backend body transport n) =
        (firstPosts backend body transport (n + k + 1), (transport (n + k)).result) ∧
      (∀ i < k, (transport (n + i)).isTransient = true) ∧
      (k < retries → (transport (n + k)).isTransient = false) := by
  simp only [Attempt.isTransient_eq]
  exact retryWithBackoff_of_stream (post_firstPosts backend body transport) retries n

/-- **Posts of a send.** They all carry the same request. A post is followed by
another one exactly if it is a transient failure and a retry is left, and the
result is that of the last post. -/
theorem send_spec :
    ∃ k ≤ backend.maxRetries,
      backend.send body transport =
        (firstPosts backend body transport (k + 1), (transport k).result) ∧
      (∀ i < k, (transport i).isTransient = true) ∧
      (k < backend.maxRetries → (transport k).isTransient = false) := by
  have hloop := retryWithBackoff_post backend body transport backend.maxRetries 0
  simp only [Nat.zero_add] at hloop
  exact hloop

/-- A post of a send and what became of it. -/
theorem getElem?_firstPosts {n i : ℕ} {posted : HttpRequest × Attempt}
    (h : (firstPosts backend body transport n)[i]? = some posted) :
    i < n ∧ posted = (backend.request body, transport i) := by
  have hlt : i < n := by
    have hbound := (List.getElem?_eq_some_iff.mp h).1
    rwa [length_firstPosts] at hbound
  refine ⟨hlt, ?_⟩
  rw [firstPosts, List.getElem?_map, List.getElem?_range hlt, Option.map_some] at h
  exact (Option.some.inj h).symm

/-- **Accepted calls.** A post that is answered with a success status is posted again
exactly if reading its body fails and a retry is left. At most one post is answered
with a success status and a complete body, and it is the last one. -/
theorem accepted_reposted_iff :
    (∀ i request attempt, (backend.send body transport).1[i]? = some (request, attempt) →
      request = backend.request body ∧ (attempt.Accepted →
        (i + 1 < (backend.send body transport).1.length ↔
          attempt.BrokeOff ∧ i < backend.maxRetries))) ∧
    (∀ i request attempt, (backend.send body transport).1[i]? = some (request, attempt) →
      attempt.Accepted → ¬attempt.BrokeOff → i + 1 = (backend.send body transport).1.length) := by
  obtain ⟨k, hk, hsend, hearlier, hlast⟩ := send_spec backend body transport
  rw [hsend]
  simp only [length_firstPosts]
  have hiff : ∀ i request attempt,
      (firstPosts backend body transport (k + 1))[i]? = some (request, attempt) →
        attempt.Accepted → (i + 1 < k + 1 ↔ attempt.BrokeOff ∧ i < backend.maxRetries) := by
    intro i request attempt hpost haccepted
    obtain ⟨hi, heq⟩ := getElem?_firstPosts backend body transport hpost
    obtain ⟨rfl, rfl⟩ := Prod.mk.inj heq
    rw [← Attempt.isTransient_iff_of_accepted haccepted]
    constructor
    · intro hlt
      exact ⟨hearlier i (by omega), by omega⟩
    · rintro ⟨htransient, hleft⟩
      by_contra hge
      obtain rfl : i = k := by omega
      rw [hlast hleft] at htransient
      cases htransient
  constructor
  · intro i request attempt hpost
    obtain ⟨-, heq⟩ := getElem?_firstPosts backend body transport hpost
    exact ⟨congrArg Prod.fst heq, hiff i request attempt hpost⟩
  · intro i request attempt hpost haccepted hcomplete
    obtain ⟨hi, -⟩ := getElem?_firstPosts backend body transport hpost
    have hnot : ¬i + 1 < k + 1 := fun hlt => hcomplete ((hiff i _ _ hpost haccepted).mp hlt).1
    omega

/-- A transport on which the first response breaks off after its status line. -/
def breakingOnce : ℕ → Attempt
  | 0 => .answered 200 none (.error { message := "body", isTimeout := false, isConnect := false })
  | _ + 1 => .answered 200 none (.ok "done")

/-- With one retry, both posts of the same body receive a success status. -/
theorem accepted_twice :
    let backend : HttpBackend :=
      { url := "http://localhost:3000/mcp", timeout := 60, maxRetries := 1, authSecret := none }
    ¬((backend.send "call" breakingOnce).1.filter fun posted => posted.2.Accepted).length ≤ 1 := by
  decide

end HttpBackend

end SentinelGateway
