import Mathlib.Data.List.Induction

/-!
# Runs of machines

Two notions of execution serve the whole development. A *machine* reacts to
every input with a new state and an output. A *guarded system* may refuse a
label in the state it is in. Both come with one induction rule each: a property
of the inputs read so far, the state reached and the outputs produced holds of
every run once it holds initially and every single step extends it.
-/

namespace Runs

section Machine

variable {S I O : Type*} (step : S → I → S × O)

/-- The state a machine reaches from `s` after reading the inputs in order. -/
def after (s : S) : List I → S
  | [] => s
  | x :: xs => after (step s x).1 xs

/-- The outputs a machine produces from `s`, one for each input. -/
def outputs (s : S) : List I → List O
  | [] => []
  | x :: xs => (step s x).2 :: outputs (step s x).1 xs

@[simp] theorem after_nil (s : S) : after step s [] = s := rfl

@[simp] theorem outputs_nil (s : S) : outputs step s [] = [] := rfl

@[simp] theorem after_cons (s : S) (x : I) (xs : List I) :
    after step s (x :: xs) = after step (step s x).1 xs := rfl

@[simp] theorem outputs_cons (s : S) (x : I) (xs : List I) :
    outputs step s (x :: xs) = (step s x).2 :: outputs step (step s x).1 xs := rfl

/-- Reading a concatenation is reading its parts one after the other. -/
theorem after_append (s : S) (xs ys : List I) :
    after step s (xs ++ ys) = after step (after step s xs) ys := by
  induction xs generalizing s with
  | nil => rfl
  | cons x xs ih => exact ih (step s x).1

/-- The outputs on a concatenation are those on its parts, the second part
being read from the state the first one reaches. -/
theorem outputs_append (s : S) (xs ys : List I) :
    outputs step s (xs ++ ys) = outputs step s xs ++ outputs step (after step s xs) ys := by
  induction xs generalizing s with
  | nil => rfl
  | cons x xs ih =>
    simp only [List.cons_append, outputs_cons, after_cons, ih]

/-- One more input is one more step. -/
theorem after_concat (s : S) (xs : List I) (x : I) :
    after step s (xs ++ [x]) = (step (after step s xs) x).1 := by
  rw [after_append]
  rfl

/-- One more input adds one output. -/
theorem outputs_concat (s : S) (xs : List I) (x : I) :
    outputs step s (xs ++ [x]) = outputs step s xs ++ [(step (after step s xs) x).2] := by
  rw [outputs_append]
  rfl

/-- Every output of a run is that of one of its steps. -/
theorem mem_outputs_iff {s : S} {xs : List I} {o : O} :
    o ∈ outputs step s xs ↔
      ∃ before x rest, xs = before ++ x :: rest ∧ (step (after step s before) x).2 = o := by
  constructor
  · intro h
    induction xs generalizing s with
    | nil => simp at h
    | cons y ys ih =>
      rw [outputs_cons, List.mem_cons] at h
      rcases h with rfl | hlater
      · exact ⟨[], y, ys, rfl, rfl⟩
      · obtain ⟨before, x, rest, rfl, houtput⟩ := ih hlater
        exact ⟨y :: before, x, rest, rfl, houtput⟩
  · rintro ⟨before, x, rest, rfl, rfl⟩
    rw [outputs_append, outputs_cons, List.mem_append, List.mem_cons]
    exact Or.inr (Or.inl rfl)

/-- **Run induction.** A relation between the inputs read, the state reached and
the outputs produced holds of every run if it holds of the empty run and every
step extends it. -/
theorem run_induction {motive : List I → S → List O → Prop} {s : S} (nil : motive [] s [])
    (concat : ∀ xs x, motive xs (after step s xs) (outputs step s xs) →
      motive (xs ++ [x]) (step (after step s xs) x).1
        (outputs step s xs ++ [(step (after step s xs) x).2])) (xs : List I) :
    motive xs (after step s xs) (outputs step s xs) := by
  induction xs using List.reverseRecOn with
  | nil => exact nil
  | append_singleton xs x ih =>
    rw [after_concat, outputs_concat]
    exact concat xs x ih

/-- The inputs of a run that are answered with an output satisfying `p`. -/
def answered (p : I → O → Bool) (s : S) : List I → List I
  | [] => []
  | x :: xs => (bif p x (step s x).2 then [x] else []) ++ answered p (step s x).1 xs

@[simp] theorem answered_nil (p : I → O → Bool) (s : S) : answered step p s [] = [] := rfl

@[simp] theorem answered_cons (p : I → O → Bool) (s : S) (x : I) (xs : List I) :
    answered step p s (x :: xs) =
      (bif p x (step s x).2 then [x] else []) ++ answered step p (step s x).1 xs := rfl

/-- The last input of a run is answered in the state the others lead to. -/
theorem answered_concat (p : I → O → Bool) (s : S) (xs : List I) (x : I) :
    answered step p s (xs ++ [x]) = answered step p s xs ++
      (bif p x (step (after step s xs) x).2 then [x] else []) := by
  induction xs generalizing s with
  | nil => simp
  | cons y ys ih => simp only [List.cons_append, answered_cons, after_cons, ih, List.append_assoc]

/-- **Simulation.** Let `f` select the inputs that concern a part of a machine,
and let `R` relate the machine to another one that models this part alone. If
the other machine follows each selected input with the same verdict, and nothing
else moves the part, then the two stay related and agree on every verdict. -/
theorem simulation {S' I' O' : Type*} {step' : S' → I' → S' × O'} {R : S → S' → Prop}
    {f : I → Option I'} {p : I → O → Bool} {p' : I' → O' → Bool}
    (selected : ∀ s s' x y, R s s' → f x = some y →
      R (step s x).1 (step' s' y).1 ∧ p x (step s x).2 = p' y (step' s' y).2)
    (skipped : ∀ s s' x, R s s' → f x = none → R (step s x).1 s')
    {s : S} {s' : S'} (hrel : R s s') (xs : List I) :
    R (after step s xs) (after step' s' (xs.filterMap f)) ∧
      (answered step p s xs).filterMap f = answered step' p' s' (xs.filterMap f) := by
  induction xs generalizing s s' with
  | nil => exact ⟨hrel, rfl⟩
  | cons x xs ih =>
    cases hf : f x with
    | none =>
      obtain ⟨hafter, hanswered⟩ := ih (skipped s s' x hrel hf)
      rw [List.filterMap_cons_none hf, after_cons, answered_cons, List.filterMap_append, hanswered]
      refine ⟨hafter, ?_⟩
      cases p x (step s x).2 <;> simp [hf]
    | some y =>
      obtain ⟨hnext, hverdict⟩ := selected s s' x y hrel hf
      obtain ⟨hafter, hanswered⟩ := ih hnext
      rw [List.filterMap_cons_some hf, after_cons, after_cons, answered_cons, answered_cons,
        hverdict, List.filterMap_append, hanswered]
      refine ⟨hafter, congrArg (· ++ _) ?_⟩
      cases p' y (step' s' y).2 <;> simp [hf]

/-- **Simulation of outputs.** When the other machine follows each selected input
with the very output that `g` reads off the first one, the outputs of the first
machine on the selected inputs are the outputs of the other. -/
theorem simulation_outputs {S' I' O' : Type*} {step' : S' → I' → S' × O'} {R : S → S' → Prop}
    {f : I → Option I'} {g : O → O'}
    (selected : ∀ s s' x y, R s s' → f x = some y →
      R (step s x).1 (step' s' y).1 ∧ g (step s x).2 = (step' s' y).2)
    (skipped : ∀ s s' x, R s s' → f x = none → R (step s x).1 s')
    {s : S} {s' : S'} (hrel : R s s') (xs : List I) :
    ((xs.zip (outputs step s xs)).filter fun pair => (f pair.1).isSome).map
        (fun pair => g pair.2) = outputs step' s' (xs.filterMap f) := by
  induction xs generalizing s s' with
  | nil => rfl
  | cons x xs ih =>
    rw [outputs_cons, List.zip_cons_cons]
    cases hf : f x with
    | none =>
      rw [List.filterMap_cons_none hf, List.filter_cons_of_neg (by simp [hf])]
      exact ih (skipped s s' x hrel hf)
    | some y =>
      obtain ⟨hnext, hverdict⟩ := selected s s' x y hrel hf
      rw [List.filterMap_cons_some hf, List.filter_cons_of_pos (by simp [hf]), List.map_cons,
        outputs_cons, hverdict, ih hnext]

/-- **Coupling.** Let a step from related states on related inputs lead to related
states and to outputs that are related too. Then two runs on related inputs stay
related, and so do their outputs, one by one. -/
theorem coupling {R : S → S → Prop} {E : I → I → Prop} {Q : I → O → O → Prop}
    (related : ∀ s t x y, R s t → E x y →
      R (step s x).1 (step t y).1 ∧ Q x (step s x).2 (step t y).2)
    {s t : S} (hrel : R s t) {xs ys : List I} (h : List.Forall₂ E xs ys) :
    R (after step s xs) (after step t ys) ∧
      List.Forall₂ (fun first second => Q first.1 first.2 second.2)
        (xs.zip (outputs step s xs)) (ys.zip (outputs step t ys)) := by
  induction h generalizing s t with
  | nil => exact ⟨hrel, List.Forall₂.nil⟩
  | cons hxy _ ih =>
    obtain ⟨hnext, houtput⟩ := related _ _ _ _ hrel hxy
    obtain ⟨hafter, houtputs⟩ := ih hnext
    exact ⟨hafter, List.Forall₂.cons houtput houtputs⟩

/-- **Same outputs.** From related states a machine gives the same outputs, if each
step on one of the inputs gives the same output and leads to related states. -/
theorem outputs_congr {R : S → S → Prop} {P : I → Prop}
    (related : ∀ s t x, R s t → P x →
      R (step s x).1 (step t x).1 ∧ (step s x).2 = (step t x).2)
    {s t : S} (hrel : R s t) {xs : List I} (h : ∀ x ∈ xs, P x) :
    outputs step s xs = outputs step t xs := by
  induction xs generalizing s t with
  | nil => rfl
  | cons x xs ih =>
    obtain ⟨hnext, houtput⟩ := related s t x hrel (h x List.mem_cons_self)
    rw [outputs_cons, outputs_cons, houtput,
      ih hnext fun y hy => h y (List.mem_cons_of_mem _ hy)]

end Machine

section Guarded

variable {S L : Type*} (step : S → L → Option S)

/-- The state a guarded system reaches from `s` along the labels, if each of
them is enabled where it is taken. -/
def exec (s : S) : List L → Option S
  | [] => some s
  | l :: ls => (step s l).bind fun t => exec t ls

@[simp] theorem exec_nil (s : S) : exec step s [] = some s := rfl

@[simp] theorem exec_cons (s : S) (l : L) (ls : List L) :
    exec step s (l :: ls) = (step s l).bind fun t => exec step t ls := rfl

/-- Executing a concatenation is executing its parts in order. -/
theorem exec_append (s : S) (ls ms : List L) :
    exec step s (ls ++ ms) = (exec step s ls).bind fun t => exec step t ms := by
  induction ls generalizing s with
  | nil => rfl
  | cons l ls ih =>
    simp only [List.cons_append, exec_cons, Option.bind_assoc]
    congr 1
    funext t
    exact ih t

/-- **Execution induction.** A relation between the labels taken and the state
reached holds of every execution if it holds initially and every enabled step
extends it. -/
theorem exec_induction {motive : List L → S → Prop} {s : S} (nil : motive [] s)
    (concat : ∀ ls l t u, exec step s ls = some t → motive ls t → step t l = some u →
      motive (ls ++ [l]) u) {ls : List L} {t : S} (h : exec step s ls = some t) :
    motive ls t := by
  induction ls using List.reverseRecOn generalizing t with
  | nil =>
    obtain rfl : s = t := by simpa using h
    exact nil
  | append_singleton ls l ih =>
    rw [exec_append, Option.bind_eq_some_iff] at h
    obtain ⟨u, hu, hl⟩ := h
    have hstep : step u l = some t := by simpa using hl
    exact concat ls l u t hu (ih hu) hstep

/-- **Termination.** If the labels of a kind lower a measure and no other label raises
it, an execution takes no more labels of that kind than the measure allows. -/
theorem countP_le_measure {μ : S → ℕ} {p : L → Bool}
    (lowers : ∀ s l t, step s l = some t → p l = true → μ t < μ s)
    (keeps : ∀ s l t, step s l = some t → p l = false → μ t ≤ μ s) {s t : S} {ls : List L}
    (h : exec step s ls = some t) : ls.countP p + μ t ≤ μ s := by
  induction ls generalizing s with
  | nil =>
    obtain rfl : s = t := by simpa using h
    simp
  | cons l ls ih =>
    obtain ⟨u, hu, hrest⟩ := Option.bind_eq_some_iff.mp h
    have hcount := ih hrest
    cases hp : p l with
    | true =>
      have hlt := lowers s l u hu hp
      rw [List.countP_cons_of_pos hp]
      omega
    | false =>
      have hle := keeps s l u hu hp
      rw [List.countP_cons_of_neg (by simp [hp])]
      omega

end Guarded

end Runs
