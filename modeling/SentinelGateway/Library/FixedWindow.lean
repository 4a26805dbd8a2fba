import Mathlib.Algebra.Order.Group.Unbundled.Basic
import Mathlib.Algebra.Order.Group.Defs
import Mathlib.Data.List.Basic
import SentinelGateway.Library.Runs

/-!
# Fixed-window counters

A counter that admits at most `limit` events per window. A window opens with the
first event, and again with the first event at least `width` after the current
window opened. Such a counter does not bound every interval of length `width`
by `limit`: an interval that straddles an opening collects events of two
windows. The event that opened the earlier one lies too far back, though, so
`2 * limit - 1` is a bound.
-/

namespace FixedWindow

/-- The window that is open and the number of events it has admitted. -/
structure Window (T : Type*) where
  opened : T
  used : ℕ

variable {T : Type*} [AddCommGroup T] [LinearOrder T]

/-- The window an event at time `t` falls in: the open one, or a new one. -/
def current (width t : T) : Option (Window T) → Window T
  | none => ⟨t, 0⟩
  | some window => if width ≤ t - window.opened then ⟨t, 0⟩ else window

/-- An event is admitted while its window has admitted fewer than `limit`. -/
def step (width : T) (limit : ℕ) (state : Option (Window T)) (t : T) :
    Option (Window T) × Bool :=
  if (current width t state).used < limit then
    (some ⟨(current width t state).opened, (current width t state).used + 1⟩, true)
  else (some (current width t state), false)

/-- The times of the events a fresh counter admits. -/
def admitted (width : T) (limit : ℕ) (times : List T) : List T :=
  Runs.answered (step width limit) (fun _ verdict => verdict) none times

/-- Whether a fresh counter admits the events, one by one. -/
def verdicts (width : T) (limit : ℕ) (times : List T) : List Bool :=
  Runs.outputs (step width limit) none times

/-- What is known of the admitted times while `window` is open: they split into
those of earlier windows and those of this one, which begins with the event that
opened it. Earlier windows contribute fewer than `limit` events to any interval
that reaches back less than `width` before the opening. -/
structure Explains (width : T) (limit : ℕ) (window : Window T) (earlier recent : List T) :
    Prop where
  used_eq : recent.length = window.used
  used_le : window.used ≤ limit
  earlier_le : ∀ t ∈ earlier, t ≤ window.opened
  earlier_few : ∀ a, window.opened - width < a → (earlier.filter (a ≤ ·)).length ≤ limit - 1
  opening : recent = [] ∨ ∃ rest, recent = window.opened :: rest

section Bound

variable [IsOrderedAddMonoid T] {width : T} {limit : ℕ}

/-- A window that opens later explains the same times, all of them as earlier. -/
theorem Explains.reopen {window : Window T} {earlier recent : List T} {t : T}
    (h : Explains width limit window earlier recent)
    (hdue : width ≤ t - window.opened) (hpast : ∀ x ∈ earlier ++ recent, x ≤ t) :
    Explains width limit ⟨t, 0⟩ (earlier ++ recent) [] := by
  refine ⟨rfl, Nat.zero_le _, hpast, ?_, Or.inl rfl⟩
  intro a ha
  have hopened : window.opened < a := lt_of_le_of_lt (le_sub_comm.mp hdue) ha
  have hearlier : earlier.filter (a ≤ ·) = [] := by
    simp only [List.filter_eq_nil_iff, decide_eq_true_eq, not_le]
    exact fun x hx => lt_of_le_of_lt (h.earlier_le x hx) hopened
  rw [List.filter_append, hearlier, List.nil_append]
  have hused := h.used_eq ▸ h.used_le
  rcases h.opening with rfl | ⟨rest, rfl⟩
  · simp
  · -- the opening event itself lies before `a`
    rw [List.filter_cons_of_neg (by simpa using hopened)]
    have hrest := List.length_filter_le (a ≤ ·) rest
    simp only [List.length_cons] at hused
    omega

/-- What an event at time `t` finds: the window it falls in explains the times
admitted so far, and if that window has admitted nothing it opens at `t`, unless
nothing is ever admitted. -/
def Ready (width : T) (limit : ℕ) (state : Option (Window T)) (times : List T) (t : T) : Prop :=
  ∃ earlier recent, earlier ++ recent = times ∧
    Explains width limit (current width t state) earlier recent ∧
    (current width t state).opened ≤ t ∧
    (recent = [] → limit = 0 ∨ (current width t state).opened = t)

/-- A later event finds the open window or opens one of its own. -/
theorem Explains.ready {window : Window T} {earlier recent : List T} {t : T}
    (h : Explains width limit window earlier recent) (hopened : window.opened ≤ t)
    (hpast : ∀ x ∈ earlier ++ recent, x ≤ t) (hnonempty : recent = [] → limit = 0) :
    Ready width limit (some window) (earlier ++ recent) t := by
  by_cases hdue : width ≤ t - window.opened
  · have hcurrent : current width t (some window) = ⟨t, 0⟩ := if_pos hdue
    refine ⟨earlier ++ recent, [], List.append_nil _, ?_, ?_, ?_⟩ <;> rw [hcurrent]
    · exact h.reopen hdue hpast
    · exact fun _ => Or.inr rfl
  · have hcurrent : current width t (some window) = window := if_neg hdue
    refine ⟨earlier, recent, rfl, ?_, ?_, ?_⟩ <;> rw [hcurrent]
    · exact h
    · exact hopened
    · exact fun hempty => Or.inl (hnonempty hempty)

/-- One event keeps the admitted times explained for every later one. -/
theorem Ready.step {state : Option (Window T)} {times : List T} {t u : T}
    (h : Ready width limit state times t) (hpast : ∀ x ∈ times, x ≤ t) (htu : t ≤ u) :
    Ready width limit (FixedWindow.step width limit state t).1
      (times ++ bif (FixedWindow.step width limit state t).2 then [t] else []) u := by
  obtain ⟨earlier, recent, rfl, hexplains, hopened, hfirst⟩ := h
  unfold FixedWindow.step
  by_cases hroom : (current width t state).used < limit
  · simp only [if_pos hroom, cond_true, List.append_assoc]
    apply Explains.ready
    · refine ⟨?_, hroom, hexplains.earlier_le, hexplains.earlier_few, Or.inr ?_⟩
      · simp [hexplains.used_eq]
      · rcases hexplains.opening with rfl | ⟨rest, rfl⟩
        · exact ⟨[], by simp [(hfirst rfl).resolve_left (by omega)]⟩
        · exact ⟨rest ++ [t], rfl⟩
    · exact le_trans hopened htu
    · intro x hx
      rw [← List.append_assoc, List.mem_append] at hx
      rcases hx with hx | hx
      · exact le_trans (hpast x hx) htu
      · exact le_of_eq_of_le (List.mem_singleton.mp hx) htu
    · simp
  · simp only [if_neg hroom, cond_false, List.append_nil]
    apply hexplains.ready (le_trans hopened htu) (fun x hx => le_trans (hpast x hx) htu)
    intro hempty
    have hused := hexplains.used_eq
    rw [hempty, List.length_nil] at hused
    omega

/-- The admitted times inside an interval of length `width` starting at `a`. -/
def inInterval (width a : T) (times : List T) : List T :=
  times.filter fun x => a ≤ x ∧ x < a + width

/-- An interval that contains an event just admitted holds fewer than `limit`
events of earlier windows, and at most `limit` of this one. -/
theorem Ready.interval_le {state : Option (Window T)} {times : List T} {t a : T}
    (h : Ready width limit state times t)
    (hbound : (inInterval width a times).length ≤ 2 * limit - 1) :
    (inInterval width a
      (times ++ bif (FixedWindow.step width limit state t).2 then [t] else [])).length ≤
        2 * limit - 1 := by
  obtain ⟨earlier, recent, rfl, hexplains, hopened, -⟩ := h
  by_cases hroom : (current width t state).used < limit
  · by_cases ht : t < a + width
    · have hback : (current width t state).opened - width < a :=
        sub_lt_iff_lt_add.mpr (lt_of_le_of_lt hopened ht)
      have hearlier : (inInterval width a earlier).length ≤ limit - 1 := by
        refine le_trans (List.Sublist.length_le ?_) (hexplains.earlier_few a hback)
        apply List.monotone_filter_right
        intro x hx
        simpa using (of_decide_eq_true hx).1
      have hrecent : (inInterval width a recent).length ≤ recent.length :=
        List.length_filter_le _ _
      have hlast : (inInterval width a [t]).length ≤ 1 := List.length_filter_le _ _
      have hused := hexplains.used_eq
      simp only [FixedWindow.step, if_pos hroom, cond_true]
      simp only [inInterval, List.filter_append, List.length_append] at hearlier hrecent hlast ⊢
      omega
    · have houtside : inInterval width a [t] = [] := by simp [inInterval, ht]
      simp only [FixedWindow.step, if_pos hroom, cond_true]
      rw [inInterval, List.filter_append, ← inInterval, ← inInterval, houtside, List.append_nil]
      exact hbound
  · simpa only [FixedWindow.step, if_neg hroom, cond_false, List.append_nil] using hbound

/-- **Window bound.** However the events of a nondecreasing sequence are spread,
an interval of length `width` holds at most `2 * limit - 1` admitted ones. -/
theorem admitted_interval_le {times : List T} (hsorted : times.Pairwise (· ≤ ·)) (a : T) :
    (inInterval width a (admitted width limit times)).length ≤ 2 * limit - 1 := by
  suffices h : (∀ x ∈ admitted width limit times, x ∈ times) ∧
      (∀ t, (∀ x ∈ times, x ≤ t) → Ready width limit
        (Runs.after (FixedWindow.step width limit) none times) (admitted width limit times) t) ∧
      (inInterval width a (admitted width limit times)).length ≤ 2 * limit - 1 from h.2.2
  induction times using List.reverseRecOn with
  | nil =>
    refine ⟨by simp [admitted], fun t _ => ⟨[], [], rfl, ?_, le_rfl, fun _ => Or.inr rfl⟩, ?_⟩
    · exact ⟨rfl, Nat.zero_le _, by simp, by simp, Or.inl rfl⟩
    · simp [admitted, inInterval]
  | append_singleton times t ih =>
    obtain ⟨hbefore, -, hlast⟩ := List.pairwise_append.mp hsorted
    obtain ⟨hmem, hready, hbound⟩ := ih hbefore
    have hpast : ∀ x ∈ times, x ≤ t := fun x hx => hlast x hx t (by simp)
    have hconcat : admitted width limit (times ++ [t]) = admitted width limit times ++
        bif (FixedWindow.step width limit
          (Runs.after (FixedWindow.step width limit) none times) t).2 then [t] else [] :=
      Runs.answered_concat _ _ _ _ _
    rw [hconcat, Runs.after_concat]
    refine ⟨?_, ?_, (hready t hpast).interval_le hbound⟩
    · intro x hx
      rcases List.mem_append.mp hx with hx | hx
      · exact List.mem_append_left _ (hmem x hx)
      · have hxt : x ∈ [t] := by
          revert hx
          cases (FixedWindow.step width limit
            (Runs.after (FixedWindow.step width limit) none times) t).2 <;> simp
        exact List.mem_append_right _ hxt
    · intro u hu
      exact (hready t hpast).step (fun x hx => hpast x (hmem x hx)) (hu t (by simp))

end Bound

end FixedWindow
