import SentinelGateway.Retry

/-!
# Attempts and delays of the retry loop

`retry_with_backoff` counts its attempts in a `u32` and waits between two of them.
The wait doubles from one attempt to the next and gets a random share on top. The
multiplication in it saturates, the shift before it and the addition after it do
not: from the 58th wait on the sum may leave the range of a `u64`, and from the
65th on the shift amount is too large.
-/

namespace SentinelGateway

/-- `u64::saturating_mul`. -/
def saturatingMul (a b : UInt64) : UInt64 :=
  UInt64.ofNat (min (a.toNat * b.toNat) (2 ^ 64 - 1))

/-- `base_ms`. A shift amount of 64 or more is taken modulo 64, as in a build without
overflow checks. -/
def baseMs (attempt : UInt32) : UInt64 :=
  saturatingMul 100 (1 <<< attempt.toUInt64)

/-- The values `jitter_ms` may get for a base delay. -/
def IsJitter (base jitter : UInt64) : Prop :=
  if 1 < base then jitter < base / 2 else jitter = 0

/-- Below the limit the counter does not wrap. -/
theorem toNat_add_one_of_lt {attempt maxRetries : UInt32} (h : attempt < maxRetries) :
    (attempt + 1).toNat = attempt.toNat + 1 := by
  have hlt : attempt.toNat < maxRetries.toNat := UInt32.lt_iff_toNat_lt.mp h
  have hbound : maxRetries.toNat < 2 ^ 32 := maxRetries.toNat_lt
  rw [UInt32.toNat_add]
  exact Nat.mod_eq_of_lt (by simp only [UInt32.reduceToNat]; omega)

/-- The loop of `retry_with_backoff`: what becomes of the operation, and the delays
in milliseconds before its repetitions. -/
def retryLoop {σ α : Type} (operation : σ → σ × Except BackendError α)
    (jitterMs : UInt32 → UInt64) (maxRetries attempt : UInt32) (s : σ) :
    (σ × Except BackendError α) × List UInt64 :=
  match operation s with
  | (s, .ok val) => ((s, .ok val), [])
  | (s, .error e) =>
    if e.isRetryable = false ∨ maxRetries ≤ attempt then ((s, .error e), [])
    else
      let rest := retryLoop operation jitterMs maxRetries (attempt + 1) s
      (rest.1, (baseMs attempt + jitterMs attempt) :: rest.2)
termination_by maxRetries.toNat - attempt.toNat
decreasing_by
  rename_i hgo
  have hlt : attempt < maxRetries := UInt32.not_le.mp (not_or.mp hgo).2
  have hltNat : attempt.toNat < maxRetries.toNat := UInt32.lt_iff_toNat_lt.mp hlt
  rw [toNat_add_one_of_lt hlt]
  omega

section Loop

variable {σ α : Type} (operation : σ → σ × Except BackendError α) (jitterMs : UInt32 → UInt64)

/-- Counting the attempts up to the limit is counting the retries that are left down
to none. -/
theorem retryLoop_fst (maxRetries attempt : UInt32) (s : σ) :
    (retryLoop operation jitterMs maxRetries attempt s).1 =
      retryWithBackoff operation (maxRetries.toNat - attempt.toNat) s := by
  fun_induction retryLoop operation jitterMs maxRetries attempt s with
  | case1 attempt s s' val hval => rw [retryWithBackoff, hval]
  | case2 attempt s s' e he hstop =>
    rw [retryWithBackoff, he]
    cases hleft : maxRetries.toNat - attempt.toNat with
    | zero => rfl
    | succ retries =>
      have hlt : ¬maxRetries ≤ attempt := by
        rw [UInt32.le_iff_toNat_le]
        omega
      simp [hstop.resolve_right hlt]
  | case3 attempt s s' e he hnot rest ih =>
    obtain ⟨hretry, hlt⟩ := not_or.mp hnot
    have hltNat : attempt.toNat < maxRetries.toNat :=
      UInt32.lt_iff_toNat_lt.mp (UInt32.not_le.mp hlt)
    have hleft : maxRetries.toNat - attempt.toNat =
        maxRetries.toNat - (attempt + 1).toNat + 1 := by
      rw [toNat_add_one_of_lt (UInt32.not_le.mp hlt)]
      omega
    rw [ih, hleft]
    conv_rhs => rw [retryWithBackoff, he]
    simp [Bool.not_eq_false _ ▸ hretry]

/-- The loop waits only after attempts below the limit. -/
theorem exists_attempt_of_mem_delays {maxRetries attempt : UInt32} {s : σ} {delay : UInt64}
    (hdelay : delay ∈ (retryLoop operation jitterMs maxRetries attempt s).2) :
    ∃ failed < maxRetries, delay = baseMs failed + jitterMs failed := by
  fun_induction retryLoop operation jitterMs maxRetries attempt s with
  | case1 attempt s s' val hval => cases hdelay
  | case2 attempt s s' e he hstop => cases hdelay
  | case3 attempt s s' e he hnot rest ih =>
    rcases List.mem_cons.mp hdelay with hnow | hlater
    · exact ⟨attempt, UInt32.not_le.mp (not_or.mp hnot).2, hnow⟩
    · exact ih hlater

end Loop

theorem isTransient_eq_false_iff {α : Type} {outcome : Except BackendError α} :
    BackendError.isTransient outcome = false ↔
      (∃ val, outcome = .ok val) ∨ ∃ e, outcome = .error e ∧ e.isRetryable = false := by
  cases outcome with
  | ok val => simp [BackendError.isTransient]
  | error e => simp [BackendError.isTransient]

/-- **Attempts of the retry loop.** It returns the outcome of the first attempt that
succeeds, fails for good or is the last one it may make, and makes no attempt after
it. -/
theorem retryLoop_first_final {α : Type} (maxRetries : UInt32)
    (outcomes : ℕ → Except BackendError α) (jitterMs : UInt32 → UInt64) :
    ∃ k, IsLeast {i | (∃ val, outcomes i = .ok val) ∨
        (∃ e, outcomes i = .error e ∧ e.isRetryable = false) ∨ i = maxRetries.toNat} k ∧
      (retryLoop (fun n => (n + 1, outcomes n)) jitterMs maxRetries 0 0).1 = (k + 1, outcomes k) ∧
      k + 1 ≤ maxRetries.toNat + 1 := by
  obtain ⟨k, hk, hloop, hearlier, hfinal⟩ :=
    @retryWithBackoff_of_stream ℕ α (fun n => (n + 1, outcomes n)) id outcomes (fun _ => rfl)
      maxRetries.toNat 0
  simp only [Nat.zero_add, id_eq] at hloop hearlier hfinal
  refine ⟨k, ⟨?_, ?_⟩, ?_, by omega⟩
  · rcases Nat.lt_or_eq_of_le hk with hlt | heq
    · exact or_assoc.mp (.inl (isTransient_eq_false_iff.mp (hfinal hlt)))
    · exact .inr (.inr heq)
  · intro i hi
    by_contra hlt
    have htransient := hearlier i (Nat.not_le.mp hlt)
    rcases or_assoc.mpr hi with hsettled | hlast
    · rw [isTransient_eq_false_iff.mpr hsettled] at htransient
      cases htransient
    · omega
  · rw [retryLoop_fst]
    exact hloop

/-- The delay computed after an attempt is safe: the shift amount is below the width,
there is a value to draw and the sum fits whatever value is drawn. -/
structure DelaySafe (attempt : UInt32) : Prop where
  shift_lt : attempt < 64
  jitter_pos : 0 < baseMs attempt / 2
  sum_lt : ∀ jitter, IsJitter (baseMs attempt) jitter →
    (baseMs attempt).toNat + jitter.toNat < 2 ^ 64

/-- The delays of a loop are safe, and the base delays do not decrease. -/
def BackoffSafe (maxRetries : UInt32) : Prop :=
  ∀ attempt < maxRetries, DelaySafe attempt ∧
    ∀ earlier ≤ attempt, baseMs earlier ≤ baseMs attempt

/-- Below the width, the base delay is the doubled one up to the largest `u64`. -/
theorem toNat_baseMs {attempt : UInt32} (h : attempt < 64) :
    (baseMs attempt).toNat = min (100 * 2 ^ attempt.toNat) (2 ^ 64 - 1) := by
  have hlt : attempt.toNat < 64 := UInt32.lt_iff_toNat_lt.mp h
  have hpow : 2 ^ attempt.toNat < 2 ^ 64 := Nat.pow_lt_pow_right (by omega) hlt
  have hshift : ((1 : UInt64) <<< attempt.toUInt64).toNat = 2 ^ attempt.toNat := by
    rw [UInt64.toNat_shiftLeft, UInt32.toNat_toUInt64, Nat.mod_eq_of_lt hlt, UInt64.toNat_one,
      Nat.one_shiftLeft, Nat.mod_eq_of_lt hpow]
  rw [baseMs, saturatingMul, hshift]
  rw [UInt64.toNat_ofNat_of_lt' (by rw [UInt64.size]; omega)]
  rfl

/-- A jitter is drawn below half of the base delay, which is never a small one. -/
theorem isJitter_baseMs_iff {attempt : UInt32} (h : attempt < 64) {jitter : UInt64} :
    IsJitter (baseMs attempt) jitter ↔ jitter.toNat < (baseMs attempt).toNat / 2 := by
  have hpos : 0 < 2 ^ attempt.toNat := Nat.two_pow_pos _
  have hone : 1 < baseMs attempt := by
    rw [UInt64.lt_iff_toNat_lt, toNat_baseMs h]
    simp only [UInt64.reduceToNat]
    omega
  rw [IsJitter, if_pos hone, UInt64.lt_iff_toNat_lt, UInt64.toNat_div]
  rfl

/-- The three limits: the shift amount is too large from attempt 64 on, the product
saturates from attempt 58 on, and the sum already overflows at attempt 57. -/
theorem delaySafe_iff (attempt : UInt32) : DelaySafe attempt ↔ attempt ≤ 56 := by
  rw [UInt32.le_iff_toNat_le]
  constructor
  · intro hsafe
    by_contra hgt
    have hbase := toNat_baseMs hsafe.shift_lt
    have hattempt : 57 ≤ attempt.toNat := by
      simp only [UInt32.reduceToNat] at hgt
      omega
    have hpow : 2 ^ 57 ≤ 2 ^ attempt.toNat := Nat.pow_le_pow_right (by omega) hattempt
    have hlarge : 100 * 2 ^ 57 ≤ (baseMs attempt).toNat := by omega
    have hlast : (baseMs attempt).toNat / 2 - 1 < 2 ^ 64 := by
      have := (baseMs attempt).toNat_lt
      omega
    have hjitter : (UInt64.ofNat ((baseMs attempt).toNat / 2 - 1)).toNat =
        (baseMs attempt).toNat / 2 - 1 := UInt64.toNat_ofNat_of_lt' hlast
    have hsum := hsafe.sum_lt (UInt64.ofNat ((baseMs attempt).toNat / 2 - 1))
      ((isJitter_baseMs_iff hsafe.shift_lt).mpr (by omega))
    omega
  · intro hle
    have hattempt : attempt.toNat ≤ 56 := hle
    have hlt : attempt < 64 := UInt32.lt_iff_toNat_lt.mpr (by
      simp only [UInt32.reduceToNat]
      omega)
    have hpow : 2 ^ attempt.toNat ≤ 2 ^ 56 := Nat.pow_le_pow_right (by omega) hattempt
    have hpos : 0 < 2 ^ attempt.toNat := Nat.two_pow_pos _
    have hbase := toNat_baseMs hlt
    refine ⟨hlt, ?_, ?_⟩
    · rw [UInt64.lt_iff_toNat_lt, UInt64.toNat_div]
      simp only [UInt64.reduceToNat]
      omega
    · intro jitter hjitter
      have := (isJitter_baseMs_iff hlt).mp hjitter
      omega

theorem baseMs_mono {earlier attempt : UInt32} (hle : earlier ≤ attempt) (hlt : attempt < 64) :
    baseMs earlier ≤ baseMs attempt := by
  have hpow : 2 ^ earlier.toNat ≤ 2 ^ attempt.toNat :=
    Nat.pow_le_pow_right (by omega) (UInt32.le_iff_toNat_le.mp hle)
  rw [UInt64.le_iff_toNat_le, toNat_baseMs hlt, toNat_baseMs (UInt32.lt_of_le_of_lt hle hlt)]
  omega

theorem delaySafe_of_lt {attempt maxRetries : UInt32} (hretries : maxRetries ≤ 57)
    (hlt : attempt < maxRetries) : DelaySafe attempt := by
  rw [UInt32.le_iff_toNat_le] at hretries
  rw [UInt32.lt_iff_toNat_lt] at hlt
  rw [delaySafe_iff, UInt32.le_iff_toNat_le]
  simp only [UInt32.reduceToNat] at hretries ⊢
  omega

/-- **Delays of the retry loop.** They are computed without overflow and grow with the
attempts exactly if at most 57 retries are allowed. -/
theorem backoffSafe_iff (maxRetries : UInt32) : BackoffSafe maxRetries ↔ maxRetries ≤ 57 := by
  constructor
  · intro hsafe
    by_contra hgt
    have hdelay := (hsafe 57 (UInt32.not_le.mp hgt)).1
    exact absurd ((delaySafe_iff 57).mp hdelay) (by decide)
  · intro hle attempt hlt
    have hsafe := delaySafe_of_lt hle hlt
    exact ⟨hsafe, fun earlier hearlier => baseMs_mono hearlier hsafe.shift_lt⟩

/-- Within these limits the loop waits as documented: the base delay is doubled after
every attempt, and the jitter is added to it. -/
theorem toNat_delay {σ α : Type} {operation : σ → σ × Except BackendError α}
    {jitterMs : UInt32 → UInt64} {maxRetries : UInt32} {s : σ} {delay : UInt64}
    (hretries : maxRetries ≤ 57)
    (hjitter : ∀ attempt, IsJitter (baseMs attempt) (jitterMs attempt))
    (hdelay : delay ∈ (retryLoop operation jitterMs maxRetries 0 s).2) :
    ∃ failed < maxRetries, delay.toNat = 100 * 2 ^ failed.toNat + (jitterMs failed).toNat := by
  obtain ⟨failed, hfailed, rfl⟩ := exists_attempt_of_mem_delays operation jitterMs hdelay
  have hsafe := delaySafe_of_lt hretries hfailed
  have hattempt : failed.toNat ≤ 56 := UInt32.le_iff_toNat_le.mp ((delaySafe_iff failed).mp hsafe)
  have hpow : 2 ^ failed.toNat ≤ 2 ^ 56 := Nat.pow_le_pow_right (by omega) hattempt
  have hbase := toNat_baseMs hsafe.shift_lt
  refine ⟨failed, hfailed, ?_⟩
  rw [UInt64.toNat_add, Nat.mod_eq_of_lt (hsafe.sum_lt _ (hjitter failed))]
  omega

/-- With 100 retries, the shift amount reaches 64. -/
theorem backoff_not_safe : ¬BackoffSafe 100 := by
  intro hsafe
  exact absurd (hsafe 64 (by decide)).1.shift_lt (by decide)

end SentinelGateway
