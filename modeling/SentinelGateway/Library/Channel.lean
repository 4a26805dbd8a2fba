import Mathlib.Data.Nat.Notation
import Mathlib.Tactic.SplitIfs
import Mathlib.Tactic.TypeStar

/-!
# Bounded channels

A channel between tasks holds its messages in the order they were sent, and no
more of them than its capacity. Sending waits for room or gives up at once,
receiving waits for a message. A receiver that waits is told when the last sender
is gone and the channel is empty; a sender is told when the receiver is gone.
-/

/-- A channel. That it holds no more than fits is part of what a channel is. -/
structure Channel (α : Type*) where
  capacity : ℕ
  queue : List α
  senders : ℕ
  receiverOpen : Bool
  bounded : queue.length ≤ capacity

namespace Channel

variable {α : Type*} {c d : Channel α} {a : α}

/-- An empty channel with a number of senders. -/
def new (capacity senders : ℕ) : Channel α :=
  { capacity, queue := [], senders, receiverOpen := true, bounded := Nat.zero_le _ }

/-- The channel has room for a message and somebody to receive it. -/
def Ready (c : Channel α) : Prop := c.receiverOpen = true ∧ c.queue.length < c.capacity

instance (c : Channel α) : Decidable c.Ready := inferInstanceAs (Decidable (_ ∧ _))

/-- The channel with one more message at its end. -/
def push (c : Channel α) (a : α) (h : c.Ready) : Channel α :=
  { c with
    queue := c.queue ++ [a]
    bounded := by
      rw [List.length_append]
      exact h.2 }

/-- The channel without its first message. -/
def pop (c : Channel α) : Channel α :=
  { c with
    queue := c.queue.tail
    bounded := by
      rw [List.length_tail]
      exact Nat.le_trans (Nat.sub_le _ _) c.bounded }

/-- Sending without waiting. The message is lost if there is no room for it. -/
def trySend (c : Channel α) (a : α) : Channel α × Bool :=
  if h : c.Ready then (c.push a h, true) else (c, false)

/-- Sending, which waits while a receiver is there and there is no room. The message
is lost if nobody is going to receive it. -/
def send (c : Channel α) (a : α) : Option (Channel α × Bool) :=
  if h : c.Ready then some (c.push a h, true)
  else if c.receiverOpen then none
  else some (c, false)

/-- Receiving, which waits while the channel is empty and somebody may send. -/
def recv (c : Channel α) : Option (Channel α × Option α) :=
  match c.queue with
  | a :: _ => some (c.pop, some a)
  | [] => if c.senders = 0 then some (c, none) else none

/-- A sender is dropped. -/
def dropSender (c : Channel α) : Channel α := { c with senders := c.senders - 1 }

/-- The receiver is dropped, and with it what it has not received. -/
def dropReceiver (c : Channel α) : Channel α :=
  { c with receiverOpen := false, queue := [], bounded := Nat.zero_le _ }

@[simp] theorem queue_push (h : c.Ready) : (c.push a h).queue = c.queue ++ [a] := rfl

@[simp] theorem queue_pop : c.pop.queue = c.queue.tail := rfl

@[simp] theorem queue_dropSender : c.dropSender.queue = c.queue := rfl

@[simp] theorem queue_dropReceiver : c.dropReceiver.queue = [] := rfl

/-- A message sent without waiting goes to the end of the channel or is lost. -/
theorem trySend_cases (c : Channel α) (a : α) :
    (∃ h : c.Ready, c.trySend a = (c.push a h, true)) ∨ ¬c.Ready ∧ c.trySend a = (c, false) := by
  unfold trySend
  split_ifs with h
  · exact Or.inl ⟨h, rfl⟩
  · exact Or.inr ⟨h, rfl⟩

/-- What becomes of a message that is sent: it goes to the end of the channel, or the
receiver is gone. -/
theorem send_cases {sent : Bool} (h : c.send a = some (d, sent)) :
    (∃ hready : c.Ready, d = c.push a hready ∧ sent = true) ∨
      c.receiverOpen = false ∧ d = c ∧ sent = false := by
  unfold send at h
  split_ifs at h with hready hopen
  · obtain ⟨rfl, rfl⟩ := Prod.mk.inj (Option.some.inj h)
    exact Or.inl ⟨hready, rfl, rfl⟩
  · obtain ⟨rfl, rfl⟩ := Prod.mk.inj (Option.some.inj h)
    exact Or.inr ⟨by simpa using hopen, rfl, rfl⟩

/-- What a receiver gets: the first message, or word that there will be none. -/
theorem recv_cases {message : Option α} (h : c.recv = some (d, message)) :
    (∃ a, message = some a ∧ c.queue = a :: d.queue ∧ d = c.pop) ∨
      message = none ∧ c.queue = [] ∧ c.senders = 0 ∧ d = c := by
  unfold recv at h
  cases hqueue : c.queue with
  | cons a rest =>
    rw [hqueue] at h
    obtain ⟨rfl, rfl⟩ := Prod.mk.inj (Option.some.inj h)
    exact Or.inl ⟨a, rfl, by simp [hqueue], rfl⟩
  | nil =>
    simp only [hqueue] at h
    split_ifs at h with hsenders
    obtain ⟨rfl, rfl⟩ := Prod.mk.inj (Option.some.inj h)
    exact Or.inr ⟨rfl, rfl, hsenders, rfl⟩

/-- A receiver waits exactly if the channel is empty and somebody may still send. -/
theorem recv_eq_none_iff : c.recv = none ↔ c.queue = [] ∧ c.senders ≠ 0 := by
  unfold recv
  cases c.queue with
  | cons a rest => simp
  | nil => by_cases h : c.senders = 0 <;> simp [h]

/-- A sender waits exactly if the channel is full and somebody may still receive. -/
theorem send_eq_none_iff :
    c.send a = none ↔ c.receiverOpen = true ∧ c.queue.length = c.capacity := by
  have hbounded := c.bounded
  unfold send Ready
  by_cases hopen : c.receiverOpen = true
  · by_cases hroom : c.queue.length < c.capacity
    · simp [hopen, hroom, Nat.ne_of_lt hroom]
    · simp [hopen, Nat.le_antisymm hbounded (Nat.le_of_not_lt hroom)]
  · simp [hopen]

/-- Once the receiver is gone the channel holds nothing. -/
def Drained (c : Channel α) : Prop := c.receiverOpen = false → c.queue = []

theorem drained_new (capacity senders : ℕ) : (new capacity senders : Channel α).Drained :=
  fun _ => rfl

theorem Drained.push (hready : c.Ready) : (c.push a hready).Drained := by
  intro hclosed
  exact absurd (hready.1.symm.trans hclosed) Bool.noConfusion

theorem Drained.pop (h : c.Drained) : c.pop.Drained := by
  intro hclosed
  rw [queue_pop, h hclosed]
  rfl

theorem drained_dropReceiver : c.dropReceiver.Drained := fun _ => rfl

end Channel
