import Mathlib.Data.Nat.Notation
import Mathlib.Tactic.SplitIfs

/-!
# A lock for readers and writers

Any number of readers may hold the lock together, and a writer only alone. That it
is never held by both is part of what a lock is, so no step of a program that uses
one can bring that about.
-/

/-- Who holds the lock. -/
structure RwLock where
  readers : ℕ
  writer : Bool
  exclusive : writer = true → readers = 0

namespace RwLock

variable {lock next : RwLock}

/-- A lock that nobody holds. -/
def new : RwLock := { readers := 0, writer := false, exclusive := fun _ => rfl }

/-- `read`, which waits while somebody writes. -/
def read (lock : RwLock) : Option RwLock :=
  if h : lock.writer = true then none
  else some { lock with readers := lock.readers + 1, exclusive := fun hwriter => absurd hwriter h }

/-- `write`, which waits while somebody reads or writes. -/
def write (lock : RwLock) : Option RwLock :=
  if h : lock.writer = false ∧ lock.readers = 0 then
    some { lock with writer := true, exclusive := fun _ => h.2 }
  else none

/-- A guard of a reader is dropped. -/
def dropRead (lock : RwLock) : RwLock :=
  { lock with
    readers := lock.readers - 1
    exclusive := fun hwriter => by rw [lock.exclusive hwriter] }

/-- The guard of the writer is dropped. -/
def dropWrite (lock : RwLock) : RwLock :=
  { lock with writer := false, exclusive := fun hwriter => absurd hwriter Bool.noConfusion }

/-- A reader gets in when nobody writes, and the others stay. -/
theorem read_cases (h : lock.read = some next) :
    lock.writer = false ∧ next.writer = false ∧ next.readers = lock.readers + 1 := by
  unfold read at h
  split_ifs at h with hwriter
  obtain rfl := Option.some.inj h
  have hfree : lock.writer = false := by simpa using hwriter
  exact ⟨hfree, hfree, rfl⟩

/-- A writer gets in when nobody else is there. -/
theorem write_cases (h : lock.write = some next) :
    lock.readers = 0 ∧ next.writer = true ∧ next.readers = 0 := by
  unfold write at h
  split_ifs at h with hfree
  obtain rfl := Option.some.inj h
  exact ⟨hfree.2, rfl, hfree.2⟩

end RwLock
