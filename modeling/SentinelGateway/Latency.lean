import Mathlib.Algebra.Order.BigOperators.Group.Finset
import Mathlib.Tactic.Linarith
import SentinelGateway.Backoff

/-!
# How long a send takes

The dispatch loop waits for a backend, and every line behind it waits too. For an HTTP
backend there is a bound: every post ends by its timeout, the number of posts is limited,
and the waits between them at most double.
-/

namespace SentinelGateway

/-- A wait is the doubled base delay and less than half as much again. -/
theorem toNat_wait {maxRetries attempt : UInt32} {jitter : UInt64} (hretries : maxRetries ≤ 57)
    (hlt : attempt < maxRetries) (hjitter : IsJitter (baseMs attempt) jitter) :
    100 * 2 ^ attempt.toNat ≤ (baseMs attempt + jitter).toNat ∧
      (baseMs attempt + jitter).toNat ≤ 150 * 2 ^ attempt.toNat := by
  have hsafe := delaySafe_of_lt hretries hlt
  have hattempt : attempt.toNat ≤ 56 := UInt32.le_iff_toNat_le.mp ((delaySafe_iff attempt).mp hsafe)
  have hpow : 2 ^ attempt.toNat ≤ 2 ^ 56 := Nat.pow_le_pow_right (by omega) hattempt
  have hbase := toNat_baseMs hsafe.shift_lt
  have hbelow := (isJitter_baseMs_iff hsafe.shift_lt).mp hjitter
  rw [UInt64.toNat_add, Nat.mod_eq_of_lt (hsafe.sum_lt _ hjitter)]
  omega

/-- The milliseconds spent waiting. -/
def waited (delays : List UInt64) : ℕ := (delays.map UInt64.toNat).sum

/-- The waits after the given attempt: there is one for each retry, and they add up to a
geometric series with at most half as much again of jitter. -/
structure WaitsFrom (maxRetries attempt : UInt32) (delays : List UInt64) : Prop where
  length_le : attempt.toNat + delays.length ≤ maxRetries.toNat
  least : 100 * 2 ^ (attempt.toNat + delays.length) ≤ waited delays + 100 * 2 ^ attempt.toNat
  most : waited delays + 150 * 2 ^ attempt.toNat ≤ 150 * 2 ^ (attempt.toNat + delays.length)

section Loop

variable {σ α : Type} (operation : σ → σ × Except BackendError α) (jitterMs : UInt32 → UInt64)

theorem waitsFrom_retryLoop {maxRetries : UInt32} (hretries : maxRetries ≤ 57)
    (hjitter : ∀ attempt, IsJitter (baseMs attempt) (jitterMs attempt)) (attempt : UInt32) (s : σ)
    (hle : attempt ≤ maxRetries) :
    WaitsFrom maxRetries attempt (retryLoop operation jitterMs maxRetries attempt s).2 := by
  fun_induction retryLoop operation jitterMs maxRetries attempt s with
  | case1 attempt s s' val hval | case2 attempt s s' e he hstop =>
    exact ⟨UInt32.le_iff_toNat_le.mp hle, (Nat.zero_add _).ge, (Nat.zero_add _).le⟩
  | case3 attempt s s' e he hnot rest ih =>
    have hlt : attempt < maxRetries := UInt32.not_le.mp (not_or.mp hnot).2
    have hnext := toNat_add_one_of_lt hlt
    have hstep : attempt + 1 ≤ maxRetries := by
      rw [UInt32.le_iff_toNat_le, hnext]
      exact UInt32.lt_iff_toNat_lt.mp hlt
    obtain ⟨hlength, hleast, hmost⟩ : WaitsFrom maxRetries (attempt + 1) rest.2 := ih hstep
    obtain ⟨hbase, hjittered⟩ := toNat_wait hretries hlt (hjitter attempt)
    rw [hnext] at hlength hleast hmost
    -- the first wait is one more term of the series
    have hdouble : 2 ^ (attempt.toNat + 1) = 2 * 2 ^ attempt.toNat := Nat.pow_succ'
    have hsum : waited ((baseMs attempt + jitterMs attempt) :: rest.2) =
        (baseMs attempt + jitterMs attempt).toNat + waited rest.2 := List.sum_cons
    have hshift : attempt.toNat + ((baseMs attempt + jitterMs attempt) :: rest.2).length =
        attempt.toNat + 1 + rest.2.length := by
      rw [List.length_cons]
      omega
    refine ⟨?_, ?_, ?_⟩
    · rw [hshift]
      exact hlength
    · rw [hshift, hsum]
      omega
    · rw [hshift, hsum]
      omega

/-- The loop repeats the operation after each wait. -/
theorem count_retryLoop {count : σ → ℕ} (hcount : ∀ s, count (operation s).1 = count s + 1)
    (maxRetries attempt : UInt32) (s : σ) :
    count (retryLoop operation jitterMs maxRetries attempt s).1.1 =
      count s + (retryLoop operation jitterMs maxRetries attempt s).2.length + 1 := by
  fun_induction retryLoop operation jitterMs maxRetries attempt s with
  | case1 attempt s s' val hval =>
    have hone := hcount s
    rw [hval] at hone
    exact hone
  | case2 attempt s s' e he hstop =>
    have hone := hcount s
    rw [he] at hone
    exact hone
  | case3 attempt s s' e he hnot rest ih =>
    have hone := hcount s
    rw [he] at hone
    have hrest : count rest.1.1 = count s' + rest.2.length + 1 := ih
    rw [List.length_cons, hrest, hone]
    omega

end Loop

namespace HttpBackend

/-- `HttpBackend::send` with the waits between its posts. -/
def timedSend (backend : HttpBackend) (body : String) (transport : ℕ → Attempt)
    (jitterMs : UInt32 → UInt64) :
    (List (HttpRequest × Attempt) × Except BackendError String) × List UInt64 :=
  retryLoop (backend.post body transport) jitterMs (UInt32.ofNat backend.maxRetries) 0 []

/-- The posts and the waits of a send. -/
theorem timedSend_spec (backend : HttpBackend) (body : String) (transport : ℕ → Attempt)
    {jitterMs : UInt32 → UInt64} (hretries : backend.maxRetries ≤ 57)
    (hjitter : ∀ attempt, IsJitter (baseMs attempt) (jitterMs attempt))
    {sent : (List (HttpRequest × Attempt) × Except BackendError String) × List UInt64}
    (hsent : sent = backend.timedSend body transport jitterMs) :
    sent.1 = backend.send body transport ∧ sent.1.1.length = sent.2.length + 1 ∧
      sent.2.length ≤ backend.maxRetries ∧ 100 * 2 ^ sent.2.length ≤ waited sent.2 + 100 ∧
        waited sent.2 + 150 ≤ 150 * 2 ^ sent.2.length := by
  subst hsent
  have hlimit : (UInt32.ofNat backend.maxRetries).toNat = backend.maxRetries :=
    UInt32.toNat_ofNat_of_lt' (by rw [UInt32.size]; omega)
  have hsmall : UInt32.ofNat backend.maxRetries ≤ 57 := by
    rw [UInt32.le_iff_toNat_le, hlimit]
    exact hretries
  obtain ⟨hlength, hleast, hmost⟩ : WaitsFrom (UInt32.ofNat backend.maxRetries) 0
      (backend.timedSend body transport jitterMs).2 :=
    waitsFrom_retryLoop (backend.post body transport) jitterMs hsmall hjitter 0 [] UInt32.zero_le
  have hposts : (backend.timedSend body transport jitterMs).1.1.length =
      0 + (backend.timedSend body transport jitterMs).2.length + 1 :=
    count_retryLoop (backend.post body transport) jitterMs (fun posts => List.length_append) _ 0 []
  rw [hlimit, UInt32.toNat_zero, Nat.zero_add] at hlength
  rw [UInt32.toNat_zero, Nat.zero_add] at hleast hmost
  refine ⟨?_, by omega, hlength, hleast, hmost⟩
  change (retryLoop (backend.post body transport) jitterMs _ 0 []).1 = _
  rw [retryLoop_fst, hlimit]
  rfl

/-- The seconds from the first post to the result, if the posts take as long as given. -/
def duration (took : ℕ → Duration)
    (sent : (List (HttpRequest × Attempt) × Except BackendError String) × List UInt64) :
    Duration :=
  ∑ i ∈ Finset.range sent.1.1.length, took i + (waited sent.2 : ℚ) / 1000

/-- **How long a send takes.** At most 57 retries are allowed and no post takes longer than
its timeout. Whatever becomes of the posts, and whatever jitter is drawn: a send of `n + 1`
posts waits at least 100 and at most 150 times `2 ^ n - 1` milliseconds between them, and
it is over after the timeouts of all the posts that are allowed and 0.15 seconds times
`2 ^ retries - 1`. -/
theorem duration_le (backend : HttpBackend) (body : String) (transport : ℕ → Attempt)
    (jitterMs : UInt32 → UInt64) (took : ℕ → Duration) (hretries : backend.maxRetries ≤ 57)
    (hjitter : ∀ attempt, IsJitter (baseMs attempt) (jitterMs attempt))
    (htook : ∀ i, 0 ≤ took i ∧ took i ≤ backend.timeout) :
    let sent := backend.timedSend body transport jitterMs
    sent.1 = backend.send body transport ∧
      ∃ n ≤ backend.maxRetries, sent.1.1.length = n + 1 ∧ sent.2.length = n ∧
        100 * (2 ^ n - 1) ≤ waited sent.2 ∧ waited sent.2 ≤ 150 * (2 ^ n - 1) ∧
        duration took sent ≤
          (backend.maxRetries + 1) * backend.timeout + 3 / 20 * (2 ^ backend.maxRetries - 1) := by
  intro sent
  obtain ⟨hsent, hposts, hlength, hleast, hmost⟩ :=
    backend.timedSend_spec body transport hretries hjitter (rfl : sent = _)
  refine ⟨hsent, sent.2.length, hlength, hposts, rfl, ?_, ?_, ?_⟩
  · have hpow : 1 ≤ 2 ^ sent.2.length := Nat.one_le_two_pow
    omega
  · have hpow : 1 ≤ 2 ^ sent.2.length := Nat.one_le_two_pow
    omega
  · have htimeout : 0 ≤ backend.timeout := (htook 0).1.trans (htook 0).2
    have hpostTime : ∑ i ∈ Finset.range sent.1.1.length, took i ≤
        (backend.maxRetries + 1) * backend.timeout := by
      calc ∑ i ∈ Finset.range sent.1.1.length, took i
          ≤ sent.1.1.length * backend.timeout := by
            have hsum := Finset.sum_le_card_nsmul (Finset.range sent.1.1.length) took
              backend.timeout fun i _ => (htook i).2
            rwa [Finset.card_range, nsmul_eq_mul] at hsum
        _ ≤ (backend.maxRetries + 1) * backend.timeout := by
            refine mul_le_mul_of_nonneg_right ?_ htimeout
            rw [hposts]
            exact_mod_cast Nat.succ_le_succ hlength
    have hwaits : waited sent.2 + 150 ≤ 150 * 2 ^ backend.maxRetries := by
      have hgrows : 2 ^ sent.2.length ≤ 2 ^ backend.maxRetries :=
        Nat.pow_le_pow_right Nat.two_pos hlength
      omega
    have hwaitTime : (waited sent.2 : ℚ) + 150 ≤ 150 * 2 ^ backend.maxRetries := by
      exact_mod_cast hwaits
    unfold duration
    linarith

/-- With the defaults, a line waits for a backend that never answers about four minutes. -/
theorem duration_le_defaults :
    let backend : HttpBackend := ⟨"http://search/mcp", 60, 3, none⟩
    let hanging : ℕ → Attempt := fun _ =>
      .failed { message := "timed out", isTimeout := true, isConnect := false }
    let sent := backend.timedSend "ping" hanging fun _ => 0
    sent.2 = [100, 200, 400] ∧ duration (fun _ => 60) sent ≤ 241 + 1 / 20 := by
  intro backend hanging sent
  refine ⟨by decide +kernel, ?_⟩
  have hjitter : ∀ attempt, IsJitter (baseMs attempt) 0 := by
    intro attempt
    unfold IsJitter
    split_ifs with hone
    · rw [UInt64.lt_iff_toNat_lt] at hone
      rw [UInt64.lt_iff_toNat_lt, UInt64.toNat_div]
      simp only [UInt64.reduceToNat] at hone ⊢
      omega
    · rfl
  obtain ⟨-, n, -, -, -, -, -, hle⟩ := duration_le backend "ping" hanging (fun _ => 0)
    (fun _ => 60) (by decide) hjitter (fun _ => ⟨by norm_num, le_rfl⟩)
  refine hle.trans ?_
  norm_num [backend]

end HttpBackend

end SentinelGateway
